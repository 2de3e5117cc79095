import CatalystSvm.Library.PathNames
import CatalystSvm.ProofVerifier

/-!
# What the verifier node attests

Transcription of `examples/verifier-node/src/main.rs` up to `verify_proof_file`.
Clock readings, the texts of foreign errors and the two file decoders are
parameters. Log lines are left out; the warning about a gap in the chain is one
of them and has no other effect. The counters wrap, as those of a release build do.
-/

namespace CatalystSvm.ProofAttestation

open CatalystSvm.CommonTypes CatalystSvm.CommonMerkle CatalystSvm.MachineArithmetic
open CatalystSvm.ProofVerifier CatalystSvm.Library.PathNames
open CatalystSvm.GuestProgram (PublicInputs)

set_option autoImplicit false

structure VerifiedBatch where
  batchId : String
  proofHash : String
  stateRootPre : String
  stateRootPost : String
  txCount : Nat
  verificationTimeMs : UInt64
  verifiedAt : UInt64
  attestation : String
  deriving DecidableEq, Repr

structure ProofMessage where
  msgType : String
  batchId : String
  proofHash : String
  commitment : ProofCommitment
  proofSize : Nat
  deriving DecidableEq, Repr

structure VerifierState where
  verifiedBatches : List VerifiedBatch
  pendingVerifications : Std.ExtTreeMap String ProofMessage
  currentStateRoot : String
  verificationCount : UInt64
  failedCount : UInt64

def VerifierState.default : VerifierState where
  verifiedBatches := []
  pendingVerifications := ∅
  currentStateRoot := "genesis"
  verificationCount := 0
  failedCount := 0

def proofFile (batchId : String) : String := batchId ++ ".proof"

def traceFile (batchId : String) : String := batchId ++ ".trace"

/-- `proof_dir`, by the file that opening `proof_dir.join(name)` reaches. A name with path
parts can reach the file of another name, as `./batch_1.proof` does. The file system tells
names apart, and no link leads from one of them to another. -/
structure ProofDir where
  fileAt : String → Path
  proof_ne_trace : ∀ left right, fileAt (proofFile left) ≠ fileAt (traceFile right)
  proof_injective : ∀ left right, Plain left → Plain right →
    fileAt (proofFile left) = fileAt (proofFile right) → left = right
  trace_injective : ∀ left right, Plain left → Plain right →
    fileAt (traceFile left) = fileAt (traceFile right) → left = right

def ProofDir.under (directory : Path) : ProofDir where
  fileAt := follow directory
  proof_ne_trace left right :=
    follow_ends_apart directory left right (by decide) (by decide) (by decide) (by decide)
      (by decide)
  proof_injective _ _ leftPlain rightPlain same :=
    follow_plain_injective leftPlain rightPlain (by decide) (by decide) same
  trace_injective _ _ leftPlain rightPlain same :=
    follow_plain_injective leftPlain rightPlain (by decide) (by decide) same

structure VerifierNode where
  sdk : Sp1Sdk
  hashBytes : HashBytes
  proofDir : ProofDir
  nodeId : String
  /-- `bincode::deserialize` into `Proof`. -/
  deserializeProof : List UInt8 → Except String Proof
  /-- `serde_json::from_slice` into `ExecutionTrace`. -/
  parseTrace : List UInt8 → Except String ExecutionTrace

/-- What one verification reads from the clocks and, should its task panic, from
the runtime. -/
structure Readings where
  sp1Ms : UInt64
  verificationTimeMs : UInt64
  attestedAt : UInt64
  verifiedAt : UInt64
  joinError : String

def attestationText (nodeId : String) (proof : Proof) (nowMs : UInt64) : String :=
  "ATTESTED:" ++ nodeId ++ ":" ++ proof.batchId ++ ":" ++ proof.proofHash ++ ":" ++ toString nowMs

/-- The batch that `verify_proof` pushes: every field is a copy out of the proof file. -/
def attested (node : VerifierNode) (readings : Readings) (proof : Proof) : VerifiedBatch where
  batchId := proof.batchId
  proofHash := proof.proofHash
  stateRootPre := proof.commitment.stateRootPre
  stateRootPost := proof.commitment.stateRootPost
  txCount := proof.commitment.txCount
  verificationTimeMs := readings.verificationTimeMs
  verifiedAt := readings.verifiedAt
  attestation := hashStr node.hashBytes (attestationText node.nodeId proof readings.attestedAt)

/-- The second write section of `verify_proof`. A root that does not continue the
chain is only logged. -/
def VerifierState.record (state : VerifierState) (verified : VerifiedBatch) : VerifierState :=
  { state with
    currentStateRoot := verified.stateRootPost
    verificationCount := state.verificationCount + 1
    verifiedBatches := state.verifiedBatches ++ [verified] }

def verifyProof (node : VerifierNode) (readings : Readings) (proof : Proof)
    (trace : ExecutionTrace) (state : VerifierState) :
    VerifierState × Except String VerifiedBatch :=
  match verify node.sdk readings.sp1Ms proof trace with
  | none => (state, .error ("Verification task failed: " ++ readings.joinError))
  | some (.error failure) => (state, .error ("Verification error: " ++ failure.text))
  | some (.ok result) =>
      if result.isValid then
        (state.record (attested node readings proof), .ok (attested node readings proof))
      else
        ({ state with failedCount := state.failedCount + 1 },
          .error ("Verification failed: " ++ result.error.getD ""))

def verifyBytes (node : VerifierNode) (readings : Readings) (proofBytes traceBytes : List UInt8)
    (state : VerifierState) : VerifierState × Except String VerifiedBatch :=
  match node.deserializeProof proofBytes with
  | .error reason => (state, .error ("Invalid proof: " ++ reason))
  | .ok proof =>
      match node.parseTrace traceBytes with
      | .error reason => (state, .error ("Invalid trace: " ++ reason))
      | .ok trace => verifyProof node readings proof trace state

/-- What reading a file returns. -/
abbrev Disk := Path → Except String (List UInt8)

def VerifierNode.proofPath (node : VerifierNode) (batchId : String) : Path :=
  node.proofDir.fileAt (proofFile batchId)

def VerifierNode.tracePath (node : VerifierNode) (batchId : String) : Path :=
  node.proofDir.fileAt (traceFile batchId)

def verifyProofFile (node : VerifierNode) (readings : Readings) (disk : Disk) (batchId : String)
    (state : VerifierState) : VerifierState × Except String VerifiedBatch :=
  match disk (node.proofPath batchId) with
  | .error reason => (state, .error ("Failed to read proof: " ++ reason))
  | .ok proofBytes =>
      match disk (node.tracePath batchId) with
      | .error reason => (state, .error ("Failed to read trace: " ++ reason))
      | .ok traceBytes => verifyBytes node readings proofBytes traceBytes state

section Specification

variable {node : VerifierNode} {readings : Readings} {state after : VerifierState}
variable {verified : VerifiedBatch}

theorem verify_proof_ok_iff {proof : Proof} {trace : ExecutionTrace} :
    verifyProof node readings proof trace state = (after, .ok verified) ↔
      Accepts node.sdk readings.sp1Ms proof trace ∧ verified = attested node readings proof ∧
        after = state.record (attested node readings proof) := by
  unfold verifyProof Accepts
  cases verify node.sdk readings.sp1Ms proof trace with
  | none => simp
  | some outcome =>
      cases outcome with
      | error failure => simp
      | ok result =>
          cases valid : result.isValid with
          | true =>
              simp only [valid, if_true, Prod.mk.injEq, Except.ok.injEq, Option.some.injEq,
                exists_eq_left', true_and]
              exact ⟨fun both => ⟨both.2.symm, both.1.symm⟩, fun both => ⟨both.2.symm, both.1.symm⟩⟩
          | false => simp [valid]

theorem verify_proof_error {proof : Proof} {trace : ExecutionTrace} {reason : String}
    (failed : verifyProof node readings proof trace state = (after, .error reason)) :
    after.verifiedBatches = state.verifiedBatches ∧
      after.currentStateRoot = state.currentStateRoot ∧
      after.verificationCount = state.verificationCount := by
  unfold verifyProof at failed
  split at failed
  · cases failed
    exact ⟨rfl, rfl, rfl⟩
  · cases failed
    exact ⟨rfl, rfl, rfl⟩
  · split_ifs at failed
    · cases failed
    · cases failed
      exact ⟨rfl, rfl, rfl⟩

theorem verify_bytes_ok_iff {proofBytes traceBytes : List UInt8} :
    verifyBytes node readings proofBytes traceBytes state = (after, .ok verified) ↔
      ∃ proof trace, node.deserializeProof proofBytes = .ok proof ∧
        node.parseTrace traceBytes = .ok trace ∧
        verifyProof node readings proof trace state = (after, .ok verified) := by
  unfold verifyBytes
  cases node.deserializeProof proofBytes with
  | error reason => simp
  | ok proof =>
      cases node.parseTrace traceBytes with
      | error reason => simp
      | ok trace => simp

theorem verify_bytes_error {proofBytes traceBytes : List UInt8} {reason : String}
    (failed : verifyBytes node readings proofBytes traceBytes state = (after, .error reason)) :
    after.verifiedBatches = state.verifiedBatches ∧
      after.currentStateRoot = state.currentStateRoot ∧
      after.verificationCount = state.verificationCount := by
  unfold verifyBytes at failed
  split at failed
  · cases failed
    exact ⟨rfl, rfl, rfl⟩
  · split at failed
    · cases failed
      exact ⟨rfl, rfl, rfl⟩
    · exact verify_proof_error failed

end Specification

theorem verify_proof_of_accepts (node : VerifierNode) (readings : Readings)
    (state : VerifierState) {proof : Proof} {trace : ExecutionTrace}
    (accepted : Accepts node.sdk readings.sp1Ms proof trace) :
    verifyProof node readings proof trace state =
      (state.record (attested node readings proof), .ok (attested node readings proof)) :=
  verify_proof_ok_iff.mpr ⟨accepted, rfl, rfl⟩

/-- The unauthenticated copies inside a proof file. -/
structure CopiesAgree (hashBytes : HashBytes) (proof : Proof) (publicInputs : PublicInputs) :
    Prop where
  batchId : proof.batchId = publicInputs.batchId
  stateRootPre : proof.commitment.stateRootPre = publicInputs.stateRootPre
  stateRootPost : proof.commitment.stateRootPost = publicInputs.stateRootPost
  txCount : proof.commitment.txCount = publicInputs.txCount
  proofHash : proof.proofHash = hashBytes proof.proofData

structure CarriesProved (hashBytes : HashBytes) (proof : Proof) (publicInputs : PublicInputs)
    (verified : VerifiedBatch) (after : VerifierState) : Prop where
  batchId : verified.batchId = publicInputs.batchId
  stateRootPre : verified.stateRootPre = publicInputs.stateRootPre
  stateRootPost : verified.stateRootPost = publicInputs.stateRootPost
  txCount : verified.txCount = publicInputs.txCount
  proofHash : verified.proofHash = hashBytes proof.proofData
  currentRoot : after.currentStateRoot = publicInputs.stateRootPost

/-- What is stored under a batch id decodes to this proof and this trace. -/
def Stores (node : VerifierNode) (disk : Disk) (batchId : String) (proof : Proof)
    (trace : ExecutionTrace) : Prop :=
  ∃ proofBytes traceBytes, disk (node.proofPath batchId) = .ok proofBytes ∧
    disk (node.tracePath batchId) = .ok traceBytes ∧ node.deserializeProof proofBytes = .ok proof ∧
    node.parseTrace traceBytes = .ok trace

theorem verify_proof_file_ok_iff {node : VerifierNode} {readings : Readings} {disk : Disk}
    {batchId : String} {state after : VerifierState} {verified : VerifiedBatch} :
    verifyProofFile node readings disk batchId state = (after, .ok verified) ↔
      ∃ proof trace, Stores node disk batchId proof trace ∧
        verifyProof node readings proof trace state = (after, .ok verified) := by
  unfold verifyProofFile Stores
  cases disk (node.proofPath batchId) with
  | error reason => simp
  | ok proofBytes =>
      cases disk (node.tracePath batchId) with
      | error reason => simp
      | ok traceBytes =>
          simp only [Except.ok.injEq, exists_eq_left', exists_and_left, verify_bytes_ok_iff]
          simp only [and_assoc, exists_and_left]

/-- The node attests proved values exactly when the copies in an accepted proof
file agree with its public values, and the requested batch exactly when the file
stored under its id says so. -/
theorem attested_values_proved_iff (node : VerifierNode) (mode : OverflowMode)
    (ideal : Ideal node.hashBytes mode node.sdk) (readings : Readings) (state : VerifierState) :
    (∀ proof trace,
      (∀ after verified, verifyProof node readings proof trace state = (after, .ok verified) →
        ∃ stdin publicInputs, GuestProgram.main node.hashBytes mode stdin = some publicInputs ∧
          ProvesInputs node.sdk proof publicInputs ∧
          CarriesProved node.hashBytes proof publicInputs verified after) ↔
      (∀ publicInputs, ProvesInputs node.sdk proof publicInputs → HeaderMatches publicInputs trace →
        CopiesAgree node.hashBytes proof publicInputs)) ∧
    (∀ disk batchId,
      (∀ after verified, verifyProofFile node readings disk batchId state = (after, .ok verified) →
        verified.batchId = batchId) ↔
      (∀ proof trace, Stores node disk batchId proof trace →
        Accepts node.sdk readings.sp1Ms proof trace → proof.batchId = batchId)) := by
  refine ⟨fun proof trace => ⟨?_, ?_⟩, fun disk batchId => ⟨?_, ?_⟩⟩
  · intro carries publicInputs proves header
    have accepted := (accepts_iff node.sdk readings.sp1Ms proof trace).mpr
      ⟨publicInputs, proves, header⟩
    rcases carries _ _ (verify_proof_of_accepts node readings state accepted) with
      ⟨_, others, _, otherProves, carried⟩
    have same : others = publicInputs := proved_inputs_unique otherProves proves
    subst same
    exact ⟨carried.batchId, carried.stateRootPre, carried.stateRootPost, carried.txCount,
      carried.proofHash⟩
  · intro agree after verified returned
    rcases verify_proof_ok_iff.mp returned with ⟨accepted, rfl, rfl⟩
    rcases (accepts_iff _ _ _ _).mp accepted with ⟨publicInputs, proves, header⟩
    rcases proved_inputs_committed ideal proves with ⟨stdin, committed⟩
    have copies := agree publicInputs proves header
    exact ⟨stdin, publicInputs, committed, proves, copies.batchId, copies.stateRootPre,
      copies.stateRootPost, copies.txCount, copies.proofHash, copies.stateRootPost⟩
  · intro returnsId proof trace stored accepted
    exact returnsId _ _ (verify_proof_file_ok_iff.mpr
      ⟨proof, trace, stored, verify_proof_of_accepts node readings state accepted⟩)
  · intro storesId after verified returned
    rcases verify_proof_file_ok_iff.mp returned with ⟨proof, trace, stored, verifiedProof⟩
    rcases verify_proof_ok_iff.mp verifiedProof with ⟨accepted, rfl, rfl⟩
    exact storesId proof trace stored accepted

section Samples

def sampleNode (proof : Proof) : VerifierNode where
  sdk := paidSdk
  hashBytes := sampleDigest
  proofDir := .under ["proofs"]
  nodeId := "verifier_00000001"
  deserializeProof := fun _ => .ok proof
  parseTrace := fun _ => .ok (paidTrace "batch_0" paidEntries)

def sampleReadings : Readings where
  sp1Ms := 7
  verificationTimeMs := 9
  attestedAt := 100
  verifiedAt := 101
  joinError := ""

def honestProof : Proof := paidProof "batch_0" paidCommitment

def forgedProof : Proof := paidProof "batch_9" { paidCommitment with stateRootPost := "forged" }

end Samples

theorem honest_batch_carries_proved :
    ∃ after verified,
      verifyProof (sampleNode honestProof) sampleReadings honestProof
        (paidTrace "batch_0" paidEntries) .default = (after, .ok verified) ∧
      ∃ stdin publicInputs, GuestProgram.main sampleDigest .wrapping stdin = some publicInputs ∧
        ProvesInputs paidSdk honestProof publicInputs ∧
        CarriesProved sampleDigest honestProof publicInputs verified after := by
  have accepted : Accepts (sampleNode honestProof).sdk sampleReadings.sp1Ms honestProof
      (paidTrace "batch_0" paidEntries) :=
    paid_accepted "batch_0" "batch_0" paidCommitment paidEntries
  have returned := verify_proof_of_accepts (sampleNode honestProof) sampleReadings .default accepted
  refine ⟨_, _, returned, ?_⟩
  apply ((attested_values_proved_iff (sampleNode honestProof) .wrapping (replay_sdk_ideal _ _ _)
    sampleReadings .default).1 honestProof (paidTrace "batch_0" paidEntries)).mpr _ _ _ returned
  intro publicInputs proves _
  have same := proved_inputs_unique proves (paid_proves "batch_0" paidCommitment)
  subst same
  exact ⟨rfl, rfl, rfl, rfl, rfl⟩

/-- The node attests a forged post root for a batch it was not asked about. -/
theorem forged_copies_are_attested :
    Ideal sampleDigest .wrapping paidSdk ∧
    ∃ after verified,
      verifyProof (sampleNode forgedProof) sampleReadings forgedProof
        (paidTrace "batch_0" paidEntries) .default = (after, .ok verified) ∧
      verifyProofFile (sampleNode forgedProof) sampleReadings (fun _ => .ok []) "batch_0" .default =
        (after, .ok verified) ∧
      verified.batchId ≠ "batch_0" ∧ after.currentStateRoot = "forged" ∧
      ¬∃ stdin publicInputs, GuestProgram.main sampleDigest .wrapping stdin = some publicInputs ∧
        ProvesInputs paidSdk forgedProof publicInputs ∧
        CarriesProved sampleDigest forgedProof publicInputs verified after := by
  have accepted : Accepts (sampleNode forgedProof).sdk sampleReadings.sp1Ms forgedProof
      (paidTrace "batch_0" paidEntries) :=
    paid_accepted "batch_9" "batch_0" _ paidEntries
  have returned := verify_proof_of_accepts (sampleNode forgedProof) sampleReadings .default accepted
  refine ⟨replay_sdk_ideal _ _ _, _, _, returned, ?_, by decide, rfl, ?_⟩
  · exact verify_proof_file_ok_iff.mpr ⟨forgedProof, paidTrace "batch_0" paidEntries,
      ⟨[], [], rfl, rfl, rfl, rfl⟩, returned⟩
  · intro carries
    rcases carries with ⟨stdin, publicInputs, _, proves, carried⟩
    have same := proved_inputs_unique proves (paid_proves "batch_9" _)
    subst same
    exact absurd carried.batchId (by decide)

end CatalystSvm.ProofAttestation
