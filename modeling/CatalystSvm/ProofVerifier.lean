import CatalystSvm.InterpreterSimulation

/-!
# The SP1 verifier

Transcription of `crates/sp1-verifier/src/lib.rs`. The SDK (bincode, key setup,
proof checking, the encoding of public values) is a record of functions; an
ideal SDK accepts only proofs of runs of the guest that committed.
-/

namespace CatalystSvm.ProofVerifier

open CatalystSvm.CommonTypes CatalystSvm.CommonMerkle CatalystSvm.MachineArithmetic
open CatalystSvm.LedgerMachine CatalystSvm.InterpreterSimulation
open CatalystSvm.GuestProgram (PublicInputs Stdin SerializableTransaction)
open CatalystSvm.Library.StepFold

set_option autoImplicit false

structure Sp1Sdk where
  Sp1Proof : Type
  PublicValues : Type
  VerifyingKey : Type
  /-- `bincode::deserialize` into `SP1ProofWithPublicValues`. -/
  deserialize : List UInt8 → Except String Sp1Proof
  /-- `prover.setup(elf)` for the one embedded program. -/
  setup : Except String VerifyingKey
  verify : Sp1Proof → VerifyingKey → Except String Unit
  publicValues : Sp1Proof → PublicValues
  /-- `public_values.read()`, which panics on undecodable bytes. -/
  read : PublicValues → Option PublicInputs
  /-- `sp1_zkvm::io::commit` in the guest. -/
  commit : PublicInputs → PublicValues

/-- SP1 is ideal: accepted public values were committed by a run of the guest, and
`read` decodes what `commit` encoded. -/
structure Ideal (hashBytes : HashBytes) (mode : OverflowMode) (sdk : Sp1Sdk) : Prop where
  sound : ∀ proof key, sdk.setup = .ok key → sdk.verify proof key = .ok () →
    ∃ stdin committed, GuestProgram.main hashBytes mode stdin = some committed ∧
      sdk.publicValues proof = sdk.commit committed
  reads : ∀ inputs, sdk.read (sdk.commit inputs) = some inputs

def rejected (proof : Proof) (verificationTimeMs : UInt64) (reason : String) :
    VerificationResult where
  batchId := proof.batchId
  isValid := false
  verificationTimeMs := verificationTimeMs
  error := some reason

/-- `Sp1Verifier::verify`; `none` is the panic of `read`. -/
def verify (sdk : Sp1Sdk) (verificationTimeMs : UInt64) (proof : Proof)
    (trace : ExecutionTrace) : Option (Except VerifyError VerificationResult) :=
  match sdk.deserialize proof.proofData with
  | .error reason =>
      some (.error (.verificationFailed ("failed to deserialize proof: " ++ reason)))
  | .ok sp1Proof =>
      match sdk.setup with
      | .error reason =>
          some (.error (.verificationFailed ("failed to setup verifier: " ++ reason)))
      | .ok key =>
          match sdk.verify sp1Proof key with
          | .error reason =>
              some (.ok (rejected proof verificationTimeMs ("SP1 verification failed: " ++ reason)))
          | .ok () => do
              let publicInputs ← sdk.read (sdk.publicValues sp1Proof)
              if publicInputs.traceHash ≠ trace.traceHash then
                some (.ok (rejected proof verificationTimeMs
                  ("trace hash mismatch: expected " ++ trace.traceHash ++ ", got " ++
                    publicInputs.traceHash)))
              else if publicInputs.stateRootPre ≠ trace.stateRootPre then
                some (.ok (rejected proof verificationTimeMs "pre-state root mismatch"))
              else if publicInputs.stateRootPost ≠ trace.stateRootPost then
                some (.ok (rejected proof verificationTimeMs "post-state root mismatch"))
              else if publicInputs.totalCompute ≠ trace.totalCompute then
                some (.ok (rejected proof verificationTimeMs "total compute mismatch"))
              else
                some (.ok {
                  batchId := proof.batchId
                  isValid := true
                  verificationTimeMs := verificationTimeMs
                  error := none })

def ProvesInputs (sdk : Sp1Sdk) (proof : Proof) (publicInputs : PublicInputs) : Prop :=
  ∃ sp1Proof key, sdk.deserialize proof.proofData = .ok sp1Proof ∧ sdk.setup = .ok key ∧
    sdk.verify sp1Proof key = .ok () ∧ sdk.read (sdk.publicValues sp1Proof) = some publicInputs

/-- The four header fields the verifier compares. -/
structure HeaderMatches (publicInputs : PublicInputs) (trace : ExecutionTrace) : Prop where
  traceHash : publicInputs.traceHash = trace.traceHash
  stateRootPre : publicInputs.stateRootPre = trace.stateRootPre
  stateRootPost : publicInputs.stateRootPost = trace.stateRootPost
  totalCompute : publicInputs.totalCompute = trace.totalCompute

def Accepts (sdk : Sp1Sdk) (verificationTimeMs : UInt64) (proof : Proof) (trace : ExecutionTrace) :
    Prop :=
  ∃ result, verify sdk verificationTimeMs proof trace = some (.ok result) ∧ result.isValid = true

theorem accepts_iff (sdk : Sp1Sdk) (verificationTimeMs : UInt64) (proof : Proof)
    (trace : ExecutionTrace) :
    Accepts sdk verificationTimeMs proof trace ↔
      ∃ publicInputs, ProvesInputs sdk proof publicInputs ∧ HeaderMatches publicInputs trace := by
  constructor
  · intro accepted
    rcases accepted with ⟨result, returned, valid⟩
    unfold verify at returned
    cases decoded : sdk.deserialize proof.proofData with
    | error reason => simp [decoded] at returned
    | ok sp1Proof =>
        cases keyed : sdk.setup with
        | error reason => simp [decoded, keyed] at returned
        | ok key =>
            cases verified : sdk.verify sp1Proof key with
            | error reason =>
                simp only [decoded, keyed, verified, Option.some.injEq, Except.ok.injEq] at returned
                simp [← returned, rejected] at valid
            | ok checked =>
                cases readBack : sdk.read (sdk.publicValues sp1Proof) with
                | none => simp [decoded, keyed, verified, readBack] at returned
                | some publicInputs =>
                    simp only [decoded, keyed, verified, readBack, bind, Option.bind_some]
                      at returned
                    refine ⟨publicInputs, ⟨sp1Proof, key, decoded, keyed, verified, readBack⟩, ?_⟩
                    split_ifs at returned with hash pre post compute
                    · cases returned
                      cases valid
                    · cases returned
                      cases valid
                    · cases returned
                      cases valid
                    · cases returned
                      cases valid
                    · exact ⟨not_not.mp hash, not_not.mp pre, not_not.mp post, not_not.mp compute⟩
  · intro proved
    rcases proved with
      ⟨publicInputs, ⟨sp1Proof, key, decoded, keyed, verified, readBack⟩, header⟩
    refine ⟨⟨proof.batchId, true, verificationTimeMs, none⟩, ?_, rfl⟩
    simp [verify, decoded, keyed, verified, readBack, header.traceHash, header.stateRootPre,
      header.stateRootPost, header.totalCompute]

theorem proved_inputs_unique {sdk : Sp1Sdk} {proof : Proof} {left right : PublicInputs}
    (leftProves : ProvesInputs sdk proof left) (rightProves : ProvesInputs sdk proof right) :
    left = right := by
  rcases leftProves with ⟨leftProof, _, leftDecoded, _, _, leftRead⟩
  rcases rightProves with ⟨rightProof, _, rightDecoded, _, _, rightRead⟩
  have same : leftProof = rightProof := Except.ok.inj (leftDecoded.symm.trans rightDecoded)
  rw [same, rightRead, Option.some.injEq] at leftRead
  exact leftRead.symm

theorem proved_inputs_committed {hashBytes : HashBytes} {mode : OverflowMode} {sdk : Sp1Sdk}
    (ideal : Ideal hashBytes mode sdk) {proof : Proof} {publicInputs : PublicInputs}
    (proves : ProvesInputs sdk proof publicInputs) :
    ∃ stdin, GuestProgram.main hashBytes mode stdin = some publicInputs := by
  rcases proves with ⟨sp1Proof, key, _, keyed, verified, readBack⟩
  rcases ideal.sound sp1Proof key keyed verified with ⟨stdin, committed, ran, encoded⟩
  rw [encoded, ideal.reads, Option.some.injEq] at readBack
  exact ⟨stdin, by rw [ran, readBack]⟩

def resultHash (hashBytes : HashBytes) (tx : SerializableTransaction)
    (result : GuestProgram.InstructionResult) : String :=
  GuestProgram.hashTraceEntry hashBytes tx.txId result.success result.compute result.reads
    result.writes

/-- Behind every accepted trace stands a run of the executor from some state. -/
theorem accepted_trace_has_run (hashBytes : HashBytes) (mode : OverflowMode) (sdk : Sp1Sdk)
    (ideal : Ideal hashBytes mode sdk) (maxCuPerTx verificationTimeMs : UInt64) (proof : Proof)
    (trace : ExecutionTrace) (accepted : Accepts sdk verificationTimeMs proof trace) :
    ∃ (initialState final : State) (transactions : List SerializableTransaction)
        (hostResults : List ExecutionEngine.InstructionResult)
        (guestResults : List GuestProgram.InstructionResult),
      TraceBuilding.computeStateRoot hashBytes initialState = trace.stateRootPre ∧
      runSteps (hostStep (.new maxCuPerTx) mode) initialState
        (transactions.map SerializableTransaction.call) = some (final, hostResults) ∧
      TraceBuilding.computeStateRoot hashBytes final = trace.stateRootPost ∧
      runSteps (guestStep mode) initialState
        (transactions.map SerializableTransaction.call) = some (final, guestResults) ∧
      trace.traceHash = merkleRoot hashBytes
        (List.zipWith (resultHash hashBytes) transactions guestResults) ∧
      accumulate mode 0 (guestResults.map GuestProgram.InstructionResult.compute) =
        some trace.totalCompute := by
  rcases (accepts_iff sdk verificationTimeMs proof trace).mp accepted with
    ⟨publicInputs, proves, header⟩
  rcases proved_inputs_committed ideal proves with ⟨stdin, committed⟩
  rcases (GuestProgram.main_commits_iff _ _ _ _).mp committed with
    ⟨final, outcomes, total, ran, accumulated, pre, post, hash, compute, count, rfl⟩
  have hostRun := host_run_eq maxCuPerTx mode stdin.initialState
    (stdin.transactions.map SerializableTransaction.call)
  rw [ran, Option.map_some] at hostRun
  refine ⟨stdin.initialState, final, stdin.transactions, _,
    GuestProgram.reports stdin.transactions outcomes, pre.trans header.stateRootPre, hostRun,
    post.trans header.stateRootPost, ?_, ?_, ?_⟩
  · rw [guest_run_eq, ran, Option.map_some, GuestProgram.call_reports]
  · rw [← header.traceHash]
    change stdin.trace.traceHash = _
    rw [← hash, GuestProgram.reportTexts, List.map_zipWith]
    rfl
  · rw [accumulated, compute]
    exact congrArg some header.totalCompute

def SelfConsistent (hashBytes : HashBytes) (trace : ExecutionTrace) : Prop :=
  trace.traceHash = merkleRoot hashBytes (trace.entries.map (TraceBuilding.entryHash hashBytes))

/-- The contents of the trace are those the guest committed to. -/
structure ContentsProved (hashBytes : HashBytes) (publicInputs : PublicInputs)
    (trace : ExecutionTrace) : Prop where
  txCount : publicInputs.txCount = trace.entries.length
  batchId : publicInputs.batchId = trace.batchId
  traceHash : publicInputs.traceHash =
    merkleRoot hashBytes (trace.entries.map (TraceBuilding.entryHash hashBytes))

def ProvedContents (hashBytes : HashBytes) (mode : OverflowMode) (sdk : Sp1Sdk) (proof : Proof)
    (trace : ExecutionTrace) : Prop :=
  ∃ stdin publicInputs, GuestProgram.main hashBytes mode stdin = some publicInputs ∧
    ProvesInputs sdk proof publicInputs ∧ ContentsProved hashBytes publicInputs trace

/-- The compared fields of a proof over no entries and under another batch id. -/
def emptiedTrace (publicInputs : PublicInputs) : ExecutionTrace where
  batchId := publicInputs.batchId ++ "_"
  entries := []
  stateRootPre := publicInputs.stateRootPre
  stateRootPost := publicInputs.stateRootPost
  traceHash := publicInputs.traceHash
  totalCompute := publicInputs.totalCompute
  successCount := 0
  failureCount := 0

/-- Every valid proof also vouches for a trace that it does not describe. -/
theorem emptied_trace_misleads {hashBytes : HashBytes} {mode : OverflowMode} {sdk : Sp1Sdk}
    {proof : Proof} {publicInputs : PublicInputs} (verificationTimeMs : UInt64)
    (proves : ProvesInputs sdk proof publicInputs) :
    Accepts sdk verificationTimeMs proof (emptiedTrace publicInputs) ∧
      ¬ProvedContents hashBytes mode sdk proof (emptiedTrace publicInputs) := by
  constructor
  · exact (accepts_iff _ _ _ _).mpr ⟨publicInputs, proves, rfl, rfl, rfl, rfl⟩
  · intro proved
    obtain ⟨_, others, _, otherProves, contents⟩ := proved
    have batchId := contents.batchId
    rw [proved_inputs_unique otherProves proves] at batchId
    have longer := congrArg String.length batchId
    rw [emptiedTrace, String.length_append] at longer
    exact absurd longer (Nat.ne_of_lt (Nat.lt_succ_self _))

/-- An accepted trace is the proved one exactly when the three things the verifier
does not look at are in order. No valid proof ensures that they are. -/
theorem accepted_contents_proved_iff (hashBytes : HashBytes) (mode : OverflowMode) (sdk : Sp1Sdk)
    (ideal : Ideal hashBytes mode sdk) (verificationTimeMs : UInt64) (proof : Proof) :
    (∀ trace,
      (Accepts sdk verificationTimeMs proof trace →
        ProvedContents hashBytes mode sdk proof trace) ↔
      (∀ publicInputs, ProvesInputs sdk proof publicInputs → HeaderMatches publicInputs trace →
        SelfConsistent hashBytes trace ∧ publicInputs.txCount = trace.entries.length ∧
          publicInputs.batchId = trace.batchId)) ∧
    ((∀ trace, Accepts sdk verificationTimeMs proof trace →
        ProvedContents hashBytes mode sdk proof trace) ↔
      ∀ publicInputs, ¬ProvesInputs sdk proof publicInputs) := by
  refine ⟨?_, ?_⟩
  · intro trace
    constructor
    · intro contents publicInputs proves header
      rcases contents ((accepts_iff _ _ _ _).mpr ⟨publicInputs, proves, header⟩) with
        ⟨_, others, _, otherProves, proved⟩
      have same : others = publicInputs := proved_inputs_unique otherProves proves
      subst same
      exact ⟨header.traceHash.symm.trans proved.traceHash, proved.txCount, proved.batchId⟩
    · intro unchecked accepted
      rcases (accepts_iff _ _ _ _).mp accepted with ⟨publicInputs, proves, header⟩
      rcases proved_inputs_committed ideal proves with ⟨stdin, committed⟩
      rcases unchecked publicInputs proves header with ⟨consistent, count, batch⟩
      exact ⟨stdin, publicInputs, committed, proves, count, batch,
        header.traceHash.trans consistent⟩
  · constructor
    · intro always publicInputs proves
      obtain ⟨accepted, misleads⟩ := emptied_trace_misleads verificationTimeMs proves
      exact misleads (always _ accepted)
    · intro rejects trace accepted
      obtain ⟨publicInputs, proves, _⟩ := (accepts_iff _ _ _ _).mp accepted
      exact absurd proves (rejects publicInputs)

section Samples

/-- The SDK whose proofs are the guest's inputs and which checks them by running
the guest again. -/
def replaySdk (hashBytes : HashBytes) (mode : OverflowMode)
    (deserialize : List UInt8 → Except String Stdin) : Sp1Sdk where
  Sp1Proof := Stdin
  PublicValues := PublicInputs
  VerifyingKey := Unit
  deserialize := deserialize
  setup := .ok ()
  verify stdin _ :=
    if (GuestProgram.main hashBytes mode stdin).isSome then .ok () else .error "invalid proof"
  publicValues stdin := stdin.trace.claimed
  read := some
  commit := id

theorem replay_sdk_ideal (hashBytes : HashBytes) (mode : OverflowMode)
    (deserialize : List UInt8 → Except String Stdin) :
    Ideal hashBytes mode (replaySdk hashBytes mode deserialize) where
  sound := by
    intro stdin key _ verified
    change (if (GuestProgram.main hashBytes mode stdin).isSome then Except.ok ()
      else Except.error "invalid proof") = Except.ok () at verified
    split_ifs at verified with ran
    rcases Option.isSome_iff_exists.mp ran with ⟨committed, committedEq⟩
    refine ⟨stdin, committed, committedEq, ?_⟩
    rcases (GuestProgram.main_commits_iff _ _ _ _).mp committedEq with
      ⟨_, _, _, _, _, _, _, _, _, _, rfl⟩
    rfl
  reads := fun _ => rfl

def paidBefore : State := (∅ : State).insert "alice" 1000000

def paidMiddle : State := (paidBefore.insert "alice" 999995).insert "account_7" 5

def paidAfter : State := paidMiddle.insert "data_5" 1

def paidStdin : Stdin where
  trace := {
    batchId := "batch_0"
    stateRootPre := TraceBuilding.computeStateRoot sampleDigest paidBefore
    stateRootPost := TraceBuilding.computeStateRoot sampleDigest paidAfter
    traceHash := merkleRoot sampleDigest [
      hashStr sampleDigest
        "tx:tx_0:success:true:cu:5000:reads:alice,account_7:writes:alice,account_7",
      hashStr sampleDigest "tx:tx_1:success:true:cu:3000:reads::writes:data_5"]
    totalCompute := 8000
    txCount := 2 }
  transactions := [⟨"tx_0", "alice", [0, 5, 0, 0, 0, 0, 0, 0, 0, 7, 0, 0, 0, 0, 0, 0, 0]⟩,
    ⟨"tx_1", "alice", [1, 5, 0, 0, 0, 0, 0, 0, 0, 1, 0, 0, 0, 0, 0, 0, 0]⟩]
  initialState := paidBefore

def paidSdk : Sp1Sdk := replaySdk sampleDigest .wrapping fun _ => .ok paidStdin

def paidProof (batchId : String) (commitment : ProofCommitment) : Proof where
  batchId := batchId
  proofData := []
  proofHash := sampleDigest []
  commitment := commitment
  generatedAt := 0
  provingTimeMs := 0
  proofSizeBytes := 0

def paidTrace (batchId : String) (entries : List TraceEntry) : ExecutionTrace where
  batchId := batchId
  entries := entries
  stateRootPre := paidStdin.trace.stateRootPre
  stateRootPost := paidStdin.trace.stateRootPost
  traceHash := paidStdin.trace.traceHash
  totalCompute := paidStdin.trace.totalCompute
  successCount := entries.length
  failureCount := 0

def paidEntries : List TraceEntry :=
  [{ txIdx := 0
     txId := ⟨"tx_0"⟩
     preStateHash := TraceBuilding.computeStateRoot sampleDigest paidBefore
     instruction := "opcode_0"
     accountsRead := ["alice", "account_7"]
     accountsWritten := ["alice", "account_7"]
     postStateHash := TraceBuilding.computeStateRoot sampleDigest paidMiddle
     computeUsed := 5000
     success := true
     error := none },
   { txIdx := 1
     txId := ⟨"tx_1"⟩
     preStateHash := TraceBuilding.computeStateRoot sampleDigest paidMiddle
     instruction := "opcode_1"
     accountsRead := []
     accountsWritten := ["data_5"]
     postStateHash := TraceBuilding.computeStateRoot sampleDigest paidAfter
     computeUsed := 3000
     success := true
     error := none }]

def paidCommitment : ProofCommitment where
  batchHash := hashStr sampleDigest "batch_0"
  traceHash := paidStdin.trace.traceHash
  stateRootPre := paidStdin.trace.stateRootPre
  stateRootPost := paidStdin.trace.stateRootPost
  totalCompute := paidStdin.trace.totalCompute
  txCount := paidStdin.trace.txCount

theorem paid_proves (batchId : String) (commitment : ProofCommitment) :
    ProvesInputs paidSdk (paidProof batchId commitment) paidStdin.trace.claimed := by
  have ran : (GuestProgram.main sampleDigest .wrapping paidStdin).isSome = true := by
    decide +kernel
  have verified : paidSdk.verify paidStdin () = .ok () := by
    simp only [paidSdk, replaySdk, ran, if_true]
  exact ⟨paidStdin, (), rfl, rfl, verified, rfl⟩

theorem paid_accepted (proofId traceId : String) (commitment : ProofCommitment)
    (entries : List TraceEntry) :
    Accepts paidSdk 7 (paidProof proofId commitment) (paidTrace traceId entries) :=
  (accepts_iff _ _ _ _).mpr
    ⟨paidStdin.trace.claimed, paid_proves proofId commitment, rfl, rfl, rfl, rfl⟩

end Samples

theorem paid_trace_has_run :
    ∃ (initialState final : State) (transactions : List SerializableTransaction)
        (hostResults : List ExecutionEngine.InstructionResult)
        (guestResults : List GuestProgram.InstructionResult),
      TraceBuilding.computeStateRoot sampleDigest initialState =
        (paidTrace "batch_0" paidEntries).stateRootPre ∧
      runSteps (hostStep (.new 200000) .wrapping) initialState
        (transactions.map SerializableTransaction.call) = some (final, hostResults) ∧
      TraceBuilding.computeStateRoot sampleDigest final =
        (paidTrace "batch_0" paidEntries).stateRootPost ∧
      runSteps (guestStep .wrapping) initialState
        (transactions.map SerializableTransaction.call) = some (final, guestResults) ∧
      (paidTrace "batch_0" paidEntries).traceHash = merkleRoot sampleDigest
        (List.zipWith (resultHash sampleDigest) transactions guestResults) ∧
      accumulate .wrapping 0 (guestResults.map GuestProgram.InstructionResult.compute) =
        some (paidTrace "batch_0" paidEntries).totalCompute :=
  accepted_trace_has_run sampleDigest .wrapping paidSdk (replay_sdk_ideal _ _ _) 200000 7
    (paidProof "batch_0" paidCommitment) (paidTrace "batch_0" paidEntries)
    (paid_accepted "batch_0" "batch_0" paidCommitment paidEntries)

theorem paid_trace_contents_proved :
    ProvedContents sampleDigest .wrapping paidSdk (paidProof "batch_0" paidCommitment)
      (paidTrace "batch_0" paidEntries) := by
  apply ((accepted_contents_proved_iff sampleDigest .wrapping paidSdk (replay_sdk_ideal _ _ _) 7
    (paidProof "batch_0" paidCommitment)).1 (paidTrace "batch_0" paidEntries)).mpr
  · intro publicInputs proves header
    have same := proved_inputs_unique proves (paid_proves "batch_0" paidCommitment)
    subst same
    have consistent : (paidTrace "batch_0" paidEntries).traceHash = merkleRoot sampleDigest
        ((paidTrace "batch_0" paidEntries).entries.map (TraceBuilding.entryHash sampleDigest)) := by
      decide +kernel
    exact ⟨consistent, rfl, rfl⟩
  · exact paid_accepted "batch_0" "batch_0" paidCommitment paidEntries

/-- A trace without entries and with another batch id is accepted all the same. -/
theorem emptied_trace_is_accepted :
    Ideal sampleDigest .wrapping paidSdk ∧
      Accepts paidSdk 7 (paidProof "batch_0" paidCommitment) (paidTrace "batch_9" []) ∧
      ¬ProvedContents sampleDigest .wrapping paidSdk (paidProof "batch_0" paidCommitment)
        (paidTrace "batch_9" []) := by
  refine ⟨replay_sdk_ideal _ _ _, paid_accepted "batch_0" "batch_9" paidCommitment [], ?_⟩
  intro proved
  rcases proved with ⟨stdin, publicInputs, _, proves, contents⟩
  have same := proved_inputs_unique proves (paid_proves "batch_0" paidCommitment)
  subst same
  exact absurd contents.txCount (by decide)

end CatalystSvm.ProofVerifier
