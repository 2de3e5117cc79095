import Mathlib.Data.List.Chain
import CatalystSvm.Library.Runs
import CatalystSvm.ProofAttestation
import CatalystSvm.CommitmentBinding

/-!
# Runs of the verifier node

The node of `examples/verifier-node/src/main.rs` as a transition system. Three
entry points start tasks: `verifyBatch` requests, proof broadcasts and the
directory poller. A task moves from one await point to the next, the files may
change between any two actions, and the shared state is touched only inside the
write sections. Every order of actions is a run.
-/

namespace CatalystSvm.VerifiedChain

open CatalystSvm.CommonTypes CatalystSvm.CommonMerkle
open CatalystSvm.ProofVerifier CatalystSvm.ProofAttestation CatalystSvm.Library.Runs

set_option autoImplicit false

inductive Source where
  | rpc
  | broadcast
  | poll
  deriving DecidableEq, Repr

inductive Stage where
  | started
  | proofRead (proofBytes : List UInt8)
  | filesRead (proofBytes traceBytes : List UInt8)
  | returned (result : Except String VerifiedBatch)
  | done

structure Task where
  source : Source
  batchId : String
  stage : Stage

structure System where
  state : VerifierState
  disk : Disk
  tasks : List Task
  /-- `processed_set` of `poll_proof_directory`. -/
  processed : List String

def System.init (disk : Disk) : System where
  state := .default
  disk := disk
  tasks := []
  processed := []

inductive Action where
  /-- Someone changes what reading the file of this name returns. -/
  | setFile (name : String) (content : Except String (List UInt8))
  | verifyBatch (batchId : String)
  | proofBroadcast (message : ProofMessage)
  /-- The poller meets the proof file of this batch. -/
  | pollEntry (batchId : String)
  /-- The task with this number runs to its next await point. -/
  | advance (task : Nat) (readings : Readings)

def Task.pollInProgress (task : Task) : Bool :=
  match task.source, task.stage with
  | .poll, .done => false
  | .poll, _ => true
  | _, _ => false

def System.start (system : System) (source : Source) (batchId : String) : System :=
  { system with
    tasks := system.tasks ++ [{ source := source, batchId := batchId, stage := .started }] }

def System.setStage (system : System) (index : Nat) (task : Task) (stage : Stage) : System :=
  { system with tasks := system.tasks.set index { task with stage := stage } }

def System.finish (system : System) (task : Task) (result : Except String VerifiedBatch) : System :=
  match task.source, result with
  | .rpc, _ => system
  | .broadcast, .ok _ =>
      { system with state := { system.state with
          pendingVerifications := system.state.pendingVerifications.erase task.batchId } }
  | .broadcast, .error _ => system
  | .poll, _ => { system with processed := task.batchId :: system.processed }

def System.advance (node : VerifierNode) (system : System) (index : Nat) (readings : Readings)
    (task : Task) : System :=
  match task.stage with
  | .started =>
      match system.disk (node.proofPath task.batchId) with
      | .error reason =>
          system.setStage index task (.returned (.error ("Failed to read proof: " ++ reason)))
      | .ok proofBytes => system.setStage index task (.proofRead proofBytes)
  | .proofRead proofBytes =>
      match system.disk (node.tracePath task.batchId) with
      | .error reason =>
          system.setStage index task (.returned (.error ("Failed to read trace: " ++ reason)))
      | .ok traceBytes => system.setStage index task (.filesRead proofBytes traceBytes)
  | .filesRead proofBytes traceBytes =>
      let (state, result) := verifyBytes node readings proofBytes traceBytes system.state
      { system.setStage index task (.returned result) with state := state }
  | .returned result => (system.finish task result).setStage index task .done
  | .done => system

/-- One action. What cannot happen in a state leaves it unchanged. -/
def step (node : VerifierNode) (system : System) : Action → System
  | .setFile name content =>
      { system with disk := fun path =>
          if path = node.proofDir.fileAt name then content else system.disk path }
  | .verifyBatch batchId => system.start .rpc batchId
  | .proofBroadcast message =>
      { system with state := { system.state with
          pendingVerifications :=
            system.state.pendingVerifications.insert message.batchId message } }.start
        .broadcast message.batchId
  | .pollEntry batchId =>
      -- One poller, which awaits each file before it looks at the next entry.
      if system.tasks.any Task.pollInProgress || system.processed.contains batchId ||
          batchId.isEmpty || !(system.disk (node.proofPath batchId)).isOk then system
      else system.start .poll batchId
  | .advance index readings =>
      match system.tasks[index]? with
      | none => system
      | some task => system.advance node index readings task

def verifying (node : VerifierNode) (system : System) :
    Action → Option (Readings × Proof × ExecutionTrace)
  | .advance index readings =>
      match system.tasks[index]? with
      | some ⟨_, _, .filesRead proofBytes traceBytes⟩ =>
          match node.deserializeProof proofBytes, node.parseTrace traceBytes with
          | .ok proof, .ok trace => some (readings, proof, trace)
          | _, _ => none
      | _ => none
  | _ => none

def Attests (node : VerifierNode) (system : System) (action : Action) (readings : Readings)
    (proof : Proof) : Prop :=
  ∃ trace, verifying node system action = some (readings, proof, trace) ∧
    Accepts node.sdk readings.sp1Ms proof trace

structure SameChain (left right : VerifierState) : Prop where
  verifiedBatches : left.verifiedBatches = right.verifiedBatches
  currentStateRoot : left.currentStateRoot = right.currentStateRoot
  verificationCount : left.verificationCount = right.verificationCount

section Steps

variable {node : VerifierNode} {system : System} {action : Action}

theorem verifying_some {readings : Readings} {proof : Proof} {trace : ExecutionTrace}
    (found : verifying node system action = some (readings, proof, trace)) :
    ∃ index source batchId proofBytes traceBytes, action = .advance index readings ∧
      system.tasks[index]? = some ⟨source, batchId, .filesRead proofBytes traceBytes⟩ ∧
      node.deserializeProof proofBytes = .ok proof ∧ node.parseTrace traceBytes = .ok trace := by
  unfold verifying at found
  split at found
  · rename_i index other
    split at found
    · rename_i source batchId proofBytes traceBytes task
      split at found
      · rename_i decoded parsed decodedEq parsedEq
        cases found
        exact ⟨index, source, batchId, proofBytes, traceBytes, rfl, task, decodedEq, parsedEq⟩
      · cases found
    · cases found
  · cases found

theorem step_attests {readings : Readings} {proof : Proof}
    (attests : Attests node system action readings proof) :
    (step node system action).state = system.state.record (attested node readings proof) := by
  rcases attests with ⟨trace, found, accepted⟩
  rcases verifying_some found with
    ⟨index, source, batchId, proofBytes, traceBytes, rfl, task, decoded, parsed⟩
  have returned : verifyBytes node readings proofBytes traceBytes system.state =
      (system.state.record (attested node readings proof), .ok (attested node readings proof)) :=
    verify_bytes_ok_iff.mpr ⟨proof, trace, decoded, parsed,
      verify_proof_of_accepts node readings system.state accepted⟩
  simp only [step, task, System.advance, returned]

theorem finish_same_chain (task : Task) (result : Except String VerifiedBatch) :
    SameChain (system.finish task result).state system.state := by
  unfold System.finish
  split <;> exact ⟨rfl, rfl, rfl⟩

theorem step_quiet (quiet : ∀ readings proof, ¬Attests node system action readings proof) :
    SameChain (step node system action).state system.state := by
  cases action with
  | setFile name content => exact ⟨rfl, rfl, rfl⟩
  | verifyBatch batchId => exact ⟨rfl, rfl, rfl⟩
  | proofBroadcast message => exact ⟨rfl, rfl, rfl⟩
  | pollEntry batchId =>
      rw [step]
      split_ifs <;> exact ⟨rfl, rfl, rfl⟩
  | advance index readings =>
      cases found : system.tasks[index]? with
      | none =>
          simp only [step, found]
          exact ⟨rfl, rfl, rfl⟩
      | some task =>
          rcases task with ⟨source, batchId, stage⟩
          simp only [step, found, System.advance]
          cases stage with
          | started => cases system.disk (node.proofPath batchId) <;> exact ⟨rfl, rfl, rfl⟩
          | proofRead proofBytes =>
              cases system.disk (node.tracePath batchId) <;> exact ⟨rfl, rfl, rfl⟩
          | filesRead proofBytes traceBytes =>
              change SameChain (verifyBytes node readings proofBytes traceBytes system.state).1
                system.state
              cases returned : verifyBytes node readings proofBytes traceBytes system.state with
              | mk after result =>
                  cases result with
                  | error reason =>
                      rcases verify_bytes_error returned with ⟨batches, root, count⟩
                      exact ⟨batches, root, count⟩
                  | ok verified =>
                      rcases verify_bytes_ok_iff.mp returned with
                        ⟨proof, trace, decoded, parsed, verifiedProof⟩
                      have accepted := (verify_proof_ok_iff.mp verifiedProof).1
                      exact absurd ⟨trace, by simp [verifying, found, decoded, parsed], accepted⟩
                        (quiet readings proof)
          | returned result => exact finish_same_chain _ result
          | done => exact ⟨rfl, rfl, rfl⟩

theorem step_cases :
    (∃ readings proof, Attests node system action readings proof ∧
      (step node system action).state = system.state.record (attested node readings proof)) ∨
    SameChain (step node system action).state system.state := by
  by_cases attests : ∃ readings proof, Attests node system action readings proof
  · rcases attests with ⟨readings, proof, attests⟩
    exact .inl ⟨readings, proof, attests, step_attests attests⟩
  · right
    apply step_quiet
    intro readings proof one
    exact attests ⟨readings, proof, one⟩

end Steps

/-! ## The chain of roots -/

/-- The post root of the last batch, or `genesis`. -/
def lastRoot (batches : List VerifiedBatch) : String :=
  (batches.getLast?.map VerifiedBatch.stateRootPost).getD "genesis"

/-- Each batch starts from the root at which the batch before it ended. -/
def Chained (batches : List VerifiedBatch) : Prop :=
  batches.IsChain fun earlier later => later.stateRootPre = earlier.stateRootPost

structure ChainState (state : VerifierState) : Prop where
  chained : Chained state.verifiedBatches
  currentRoot : state.currentStateRoot = lastRoot state.verifiedBatches

theorem chain_state_congr {left right : VerifierState} (same : SameChain left right)
    (chain : ChainState right) : ChainState left := by
  rcases chain with ⟨chained, root⟩
  rw [← same.verifiedBatches] at chained root
  rw [← same.currentStateRoot] at root
  exact ⟨chained, root⟩

theorem record_chain_state_iff {state : VerifierState} {verified : VerifiedBatch}
    (chain : ChainState state) :
    ChainState (state.record verified) ↔
      state.verifiedBatches = [] ∨ verified.stateRootPre = state.currentStateRoot := by
  have root : (state.record verified).currentStateRoot =
      lastRoot (state.record verified).verifiedBatches := by
    simp [VerifierState.record, lastRoot]
  have appended : Chained (state.record verified).verifiedBatches ↔
      ∀ earlier ∈ state.verifiedBatches.getLast?,
        verified.stateRootPre = earlier.stateRootPost := by
    change Chained (state.verifiedBatches ++ [verified]) ↔ _
    rw [Chained, List.isChain_append]
    constructor
    · intro parts earlier member
      exact parts.2.2 earlier member verified rfl
    · intro joint
      refine ⟨chain.chained, .singleton verified, ?_⟩
      intro earlier member later single
      cases single
      exact joint earlier member
  have onlyChained : ChainState (state.record verified) ↔
      Chained (state.record verified).verifiedBatches :=
    ⟨fun both => both.chained, fun chained => ⟨chained, root⟩⟩
  rw [onlyChained, appended, chain.currentRoot, lastRoot]
  cases last : state.verifiedBatches.getLast? with
  | none => simp [List.getLast?_eq_none_iff.mp last]
  | some earlier =>
      have nonempty : state.verifiedBatches ≠ [] := by
        intro empty
        simp [empty] at last
      simp [nonempty]

/-- A proof recorded after the first one starts from the current root. -/
def Continues (node : VerifierNode) (system : System) (action : Action) : Prop :=
  ∀ readings proof, Attests node system action readings proof →
    system.state.verifiedBatches = [] ∨
      proof.commitment.stateRootPre = system.state.currentStateRoot

/-- Every acceptable proof, the first one included, starts from the current root. -/
def Matches (node : VerifierNode) (system : System) (action : Action) : Prop :=
  ∀ readings proof, Attests node system action readings proof →
    proof.commitment.stateRootPre = system.state.currentStateRoot

def RejectsMismatch (node : VerifierNode) (system : System) (action : Action) : Prop :=
  ∀ readings proof trace, verifying node system action = some (readings, proof, trace) →
    proof.commitment.stateRootPre ≠ system.state.currentStateRoot →
    (∃ reason, (verifyProof node readings proof trace system.state).2 = .error reason) ∧
      (step node system action).state.verifiedBatches = system.state.verifiedBatches ∧
      (step node system action).state.currentStateRoot = system.state.currentStateRoot

section Chain

variable {node : VerifierNode} {system : System} {action : Action}

theorem step_keeps_chain (chain : ChainState system.state)
    (continues : Continues node system action) : ChainState (step node system action).state := by
  rcases step_cases with ⟨readings, proof, attests, recorded⟩ | same
  · rw [recorded]
    exact (record_chain_state_iff chain).mpr (continues readings proof attests)
  · exact chain_state_congr same chain

theorem step_needs_continuation (chain : ChainState system.state)
    (next : ChainState (step node system action).state) : Continues node system action := by
  intro readings proof attests
  rw [step_attests attests] at next
  exact (record_chain_state_iff chain).mp next

theorem attests_of_accepted {readings : Readings} {proof : Proof} {trace : ExecutionTrace}
    (found : verifying node system action = some (readings, proof, trace))
    (accepted : Accepts node.sdk readings.sp1Ms proof trace) :
    Attests node system action readings proof :=
  ⟨trace, found, accepted⟩

theorem step_unaccepted {readings : Readings} {proof : Proof} {trace : ExecutionTrace}
    (found : verifying node system action = some (readings, proof, trace))
    (unaccepted : ¬Accepts node.sdk readings.sp1Ms proof trace) :
    (∃ reason, (verifyProof node readings proof trace system.state).2 = .error reason) ∧
      SameChain (step node system action).state system.state := by
  constructor
  · cases returned : verifyProof node readings proof trace system.state with
    | mk after result =>
        cases result with
        | error reason => exact ⟨reason, rfl⟩
        | ok verified => exact absurd (verify_proof_ok_iff.mp returned).1 unaccepted
  · apply step_quiet
    intro otherReadings otherProof attests
    rcases attests with ⟨otherTrace, otherFound, accepted⟩
    rw [found, Option.some.injEq, Prod.mk.injEq, Prod.mk.injEq] at otherFound
    rcases otherFound with ⟨rfl, rfl, rfl⟩
    exact unaccepted accepted

theorem rejects_mismatch_iff_matches :
    RejectsMismatch node system action ↔ Matches node system action := by
  constructor
  · intro rejects readings proof attests
    rcases attests with ⟨trace, found, accepted⟩
    by_contra mismatch
    rcases rejects readings proof trace found mismatch with ⟨⟨reason, failed⟩, _⟩
    rw [verify_proof_of_accepts node readings system.state accepted] at failed
    cases failed
  · intro matching readings proof trace found mismatch
    have unaccepted : ¬Accepts node.sdk readings.sp1Ms proof trace := fun accepted =>
      mismatch (matching readings proof (attests_of_accepted found accepted))
    rcases step_unaccepted found unaccepted with ⟨failed, same⟩
    exact ⟨failed, same.verifiedBatches, same.currentStateRoot⟩

end Chain

theorem init_chain_state (disk : Disk) : ChainState (System.init disk).state :=
  ⟨.nil, rfl⟩

/-- The verified batches form a chain throughout a run exactly when every batch
recorded after the first continues it, and gaps are moreover rejected exactly
when no acceptable proof ever has one. -/
theorem verified_chain_iff (node : VerifierNode) (disk : Disk) (actions : List Action) :
    (Always (step node) (.init disk) actions (fun system => ChainState system.state) ↔
      EachStep (step node) (.init disk) actions (Continues node)) ∧
    (Always (step node) (.init disk) actions (fun system => ChainState system.state) ∧
        EachStep (step node) (.init disk) actions (RejectsMismatch node) ↔
      EachStep (step node) (.init disk) actions (Matches node)) := by
  have chained : Always (step node) (.init disk) actions (fun system => ChainState system.state) ↔
      EachStep (step node) (.init disk) actions (Continues node) := by
    constructor
    · exact each_step_of_always fun system action chain next => step_needs_continuation chain next
    · exact always_of_each_step (init_chain_state disk)
        fun system action chain continues => step_keeps_chain chain continues
  refine ⟨chained, ?_⟩
  rw [each_step_congr fun system action => rejects_mismatch_iff_matches]
  constructor
  · exact fun both => both.2
  · intro matching
    refine ⟨chained.mpr ?_, matching⟩
    intro count action taken readings proof attests
    exact .inr (matching count action taken readings proof attests)

section Samples

/-- The honest run of the batch `batch_<value>`, which stores `value` under `data_5`.
Like every batch it is executed from its own fresh map. -/
def batchStdin (value : UInt8) : GuestProgram.Stdin :=
  { CommitmentBinding.storeStdin "alice" value with
    trace := { (CommitmentBinding.storeStdin "alice" value).trace with
      batchId := "batch_" ++ toString value } }

def batchProof (value : UInt8) : Proof where
  batchId := (batchStdin value).trace.batchId
  proofData := [value]
  proofHash := sampleDigest [value]
  commitment := {
    batchHash := hashStr sampleDigest (batchStdin value).trace.batchId
    traceHash := (batchStdin value).trace.traceHash
    stateRootPre := (batchStdin value).trace.stateRootPre
    stateRootPost := (batchStdin value).trace.stateRootPost
    totalCompute := (batchStdin value).trace.totalCompute
    txCount := (batchStdin value).trace.txCount }
  generatedAt := 0
  provingTimeMs := 0
  proofSizeBytes := 1

def batchTrace (value : UInt8) : ExecutionTrace where
  batchId := (batchStdin value).trace.batchId
  entries := [{
    txIdx := 0
    txId := ⟨"tx_0"⟩
    preStateHash := (batchStdin value).trace.stateRootPre
    instruction := "opcode_1"
    accountsRead := []
    accountsWritten := ["data_5"]
    postStateHash := (batchStdin value).trace.stateRootPost
    computeUsed := 3000
    success := true
    error := none }]
  stateRootPre := (batchStdin value).trace.stateRootPre
  stateRootPost := (batchStdin value).trace.stateRootPost
  traceHash := (batchStdin value).trace.traceHash
  totalCompute := (batchStdin value).trace.totalCompute
  successCount := 1
  failureCount := 0

def batchNode : VerifierNode where
  sdk := replaySdk sampleDigest .wrapping fun bytes => .ok (batchStdin (bytes.headD 0))
  hashBytes := sampleDigest
  proofDir := .under ["proofs"]
  nodeId := "verifier_00000001"
  deserializeProof := fun bytes => .ok (batchProof (bytes.headD 0))
  parseTrace := fun bytes => .ok (batchTrace (bytes.headD 0))

def batchDisk : Disk := fun path =>
  if path = ["proofs", "batch_1.proof"] ∨ path = ["proofs", "batch_1.trace"] then .ok [1]
  else if path = ["proofs", "batch_2.proof"] ∨ path = ["proofs", "batch_2.trace"] then .ok [2]
  else .error "No such file or directory"

def request (task : Nat) (batchId : String) : List Action :=
  .verifyBatch batchId :: List.replicate 4 (.advance task sampleReadings)

end Samples

/-- Two honest batches, requested one after the other, do not form a chain. -/
theorem two_batches_break_the_chain :
    ¬Always (step batchNode) (.init batchDisk) (request 0 "batch_1" ++ request 1 "batch_2")
      (fun system => ChainState system.state) := by
  intro always
  have chained := (always 10).chained
  unfold Chained at chained
  exact absurd chained (by decide +kernel)

/-! ## Batches verified more than once -/

def verifiedIds (state : VerifierState) : List String :=
  state.verifiedBatches.map VerifiedBatch.batchId

def Fresh (node : VerifierNode) (system : System) (action : Action) : Prop :=
  ∀ readings proof, Attests node system action readings proof →
    proof.batchId ∉ verifiedIds system.state

/-- Verifying a recorded batch again changes nothing. -/
def Idempotent (node : VerifierNode) (system : System) (action : Action) : Prop :=
  ∀ readings proof trace, verifying node system action = some (readings, proof, trace) →
    proof.batchId ∈ verifiedIds system.state →
    SameChain (step node system action).state system.state

section Repetition

variable {node : VerifierNode} {system : System} {action : Action}

theorem recorded_ids (state : VerifierState) (verified : VerifiedBatch) :
    verifiedIds (state.record verified) = verifiedIds state ++ [verified.batchId] := by
  simp [verifiedIds, VerifierState.record]

theorem same_ids {left right : VerifierState} (same : SameChain left right) :
    verifiedIds left = verifiedIds right := by
  rw [verifiedIds, same.verifiedBatches, verifiedIds]

theorem record_ids_nodup_iff {state : VerifierState} {verified : VerifiedBatch}
    (distinct : (verifiedIds state).Nodup) :
    (verifiedIds (state.record verified)).Nodup ↔ verified.batchId ∉ verifiedIds state := by
  rw [recorded_ids, List.nodup_append]
  constructor
  · intro parts member
    exact parts.2.2 _ member _ (List.mem_singleton_self _) rfl
  · intro fresh
    refine ⟨distinct, List.nodup_singleton _, ?_⟩
    intro left member right single equal
    rw [List.mem_singleton] at single
    rw [equal, single] at member
    exact fresh member

theorem step_keeps_distinct (distinct : (verifiedIds system.state).Nodup)
    (fresh : Fresh node system action) :
    (verifiedIds (step node system action).state).Nodup := by
  rcases step_cases with ⟨readings, proof, attests, recorded⟩ | same
  · rw [recorded]
    exact (record_ids_nodup_iff distinct).mpr (fresh readings proof attests)
  · rw [same_ids same]
    exact distinct

theorem step_needs_fresh (distinct : (verifiedIds system.state).Nodup)
    (next : (verifiedIds (step node system action).state).Nodup) : Fresh node system action := by
  intro readings proof attests
  rw [step_attests attests] at next
  exact (record_ids_nodup_iff distinct).mp next

theorem idempotent_iff_fresh : Idempotent node system action ↔ Fresh node system action := by
  constructor
  · intro idempotent readings proof attests member
    have recorded := step_attests attests
    rcases attests with ⟨trace, found, accepted⟩
    have same := (idempotent readings proof trace found member).verifiedBatches
    rw [recorded] at same
    have lengths := congrArg List.length same
    simp [VerifierState.record] at lengths
  · intro fresh readings proof trace found member
    apply (step_unaccepted found _).2
    intro accepted
    exact fresh readings proof (attests_of_accepted found accepted) member

end Repetition

/-- Batch ids stay distinct throughout a run, and every repeated verification is
without effect, exactly when no acceptable proof repeats a recorded batch. -/
theorem verification_idempotent_iff (node : VerifierNode) (disk : Disk) (actions : List Action) :
    (Always (step node) (.init disk) actions (fun system => (verifiedIds system.state).Nodup) ↔
      EachStep (step node) (.init disk) actions (Fresh node)) ∧
    (EachStep (step node) (.init disk) actions (Idempotent node) ↔
      EachStep (step node) (.init disk) actions (Fresh node)) := by
  constructor
  · constructor
    · exact each_step_of_always fun system action distinct next => step_needs_fresh distinct next
    · exact always_of_each_step List.nodup_nil
        fun system action distinct fresh => step_keeps_distinct distinct fresh
  · exact each_step_congr fun system action => idempotent_iff_fresh

def repeatedRequests : List Action :=
  request 0 "batch_1" ++ request 1 "batch_2" ++ request 2 "batch_1"

/-- `batch_1` is requested again after `batch_2`: it is recorded twice, and the
current root falls back to the post root of `batch_1`. -/
theorem repeated_batch_moves_root_back :
    ¬Always (step batchNode) (.init batchDisk) repeatedRequests
        (fun system => (verifiedIds system.state).Nodup) ∧
      (stateAfter (step batchNode) (.init batchDisk) repeatedRequests 10).state.currentStateRoot =
        (batchProof 2).commitment.stateRootPost ∧
      (stateAfter (step batchNode) (.init batchDisk) repeatedRequests 15).state.currentStateRoot =
        (batchProof 1).commitment.stateRootPost ∧
      (batchProof 1).commitment.stateRootPost ≠ (batchProof 2).commitment.stateRootPost := by
  refine ⟨?_, by decide +kernel, by decide +kernel, by decide +kernel⟩
  intro always
  exact absurd (always 15) (by decide +kernel)

end CatalystSvm.VerifiedChain
