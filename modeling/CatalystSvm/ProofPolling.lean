import CatalystSvm.ProverInputs
import CatalystSvm.ValidatorRuns
import CatalystSvm.VerifiedChain

/-!
# Proof files between validator and poller

The validator of `examples/validator` and the verifier of `examples/verifier-node`
share the proof directory. `save_proof` writes `<id>.proof` and then `<id>.trace`,
neither of them atomically; the poller takes a batch up as soon as it lists the
first file, and never again. Both nodes keep their own transition systems; only
the writes of the validator reach the disk of the verifier.
-/

namespace CatalystSvm.ProofPolling

open CatalystSvm.CommonTypes CatalystSvm.BatchPolicy CatalystSvm.ProofVerifier
open CatalystSvm.ProofAttestation CatalystSvm.Library.Runs CatalystSvm.Library.TaskLists
open CatalystSvm.Library.PathNames (Path)
open CatalystSvm.ValidatorNode (Validator Event)
open CatalystSvm.VerifiedChain (verifiedIds)

set_option autoImplicit false

structure Codec where
  /-- `bincode::serialize`. -/
  serializeProof : Proof → List UInt8
  /-- `serde_json::to_vec_pretty`. -/
  serializeTrace : ExecutionTrace → List UInt8

structure FileWrite where
  name : String
  content : List UInt8

/-- What a step of a `process_batch` call makes readable on disk. A torn write shows
a part of the bytes. -/
def fileWrite (codec : Codec) (task : ValidatorNode.Task) : Event → Option FileWrite
  | .tear count =>
      match task.stage with
      | .proved _ proof _ => some
          { name := proofFile proof.batchId
            content := (codec.serializeProof proof).take count }
      | .proofWritten trace proof _ => some
          { name := traceFile proof.batchId
            content := (codec.serializeTrace trace).take count }
      | _ => none
  | .write (.ok ()) =>
      match task.stage with
      | .proved _ proof _ => some
          { name := proofFile proof.batchId
            content := codec.serializeProof proof }
      | .proofWritten trace proof _ => some
          { name := traceFile proof.batchId
            content := codec.serializeTrace trace }
      | _ => none
  | _ => none

structure Exchange where
  validator : ValidatorNode.System
  verifier : VerifiedChain.System

def Exchange.init (disk : Disk) : Exchange where
  validator := .init
  verifier := .init disk

inductive Action where
  | validator (action : ValidatorNode.Action)
  | verifyBatch (batchId : String)
  | proofBroadcast (message : ProofMessage)
  | pollEntry (batchId : String)
  | verifierAdvance (task : Nat) (readings : Readings)

def Exchange.writes (codec : Codec) (system : Exchange) : Action → Option FileWrite
  | .validator (.advance index event) =>
      (system.validator.tasks[index]?).bind fun task => fileWrite codec task event
  | _ => none

section Transitions

variable {Policy : Type} [PolicyEngine Policy]

def verifierAction (codec : Codec) (system : Exchange) : Action → Option VerifiedChain.Action
  | .verifyBatch batchId => some (.verifyBatch batchId)
  | .proofBroadcast message => some (.proofBroadcast message)
  | .pollEntry batchId => some (.pollEntry batchId)
  | .verifierAdvance task readings => some (.advance task readings)
  | action => (system.writes codec action).map fun write => .setFile write.name (.ok write.content)

def step (validator : Validator Policy) (node : VerifierNode) (codec : Codec)
    (system : Exchange) (action : Action) : Exchange where
  validator :=
    match action with
    | .validator inner => ValidatorNode.step validator system.validator inner
    | _ => system.validator
  verifier :=
    match verifierAction codec system action with
    | some inner => VerifiedChain.step node system.verifier inner
    | none => system.verifier

end Transitions

/-! ## Files and batches -/

/-- Both files are readable, belong to the batch and hold an acceptable proof. -/
def ValidFiles (node : VerifierNode) (disk : Disk) (batchId : String) : Prop :=
  ∃ proof trace, Stores node disk batchId proof trace ∧ proof.batchId = batchId ∧
    ∀ sp1Ms, Accepts node.sdk sp1Ms proof trace

/-- No batch that the poller is done with has valid files and no verification. -/
def NoneSkipped (node : VerifierNode) (system : Exchange) : Prop :=
  ∀ batchId ∈ system.verifier.processed, ValidFiles node system.verifier.disk batchId →
    batchId ∈ verifiedIds system.verifier.state

def filesReadBy (node : VerifierNode) (task : VerifiedChain.Task) : List Path :=
  match task.stage with
  | .started => []
  | .proofRead _ => [node.proofPath task.batchId]
  | .filesRead .. => [node.proofPath task.batchId, node.tracePath task.batchId]
  | .returned _ => [node.proofPath task.batchId, node.tracePath task.batchId]
  | .done => []

/-- The poller will not read this file again, and its batch is not verified yet. -/
def ReadByPoller (node : VerifierNode) (verifier : VerifiedChain.System) (path : Path) : Prop :=
  (∃ batchId ∈ verifier.processed, batchId ∉ verifiedIds verifier.state ∧
      (path = node.proofPath batchId ∨ path = node.tracePath batchId)) ∨
    ∃ task ∈ verifier.tasks, task.pollInProgress = true ∧
      task.batchId ∉ verifiedIds verifier.state ∧ path ∈ filesReadBy node task

/-- No file of an unverified batch is written any more once the poller has read it. -/
def WrittenBeforeRead (node : VerifierNode) (codec : Codec) (system : Exchange)
    (action : Action) : Prop :=
  ∀ write, system.writes codec action = some write →
    ¬ReadByPoller node system.verifier (node.proofDir.fileAt write.name)

def SameFiles (node : VerifierNode) (left right : Disk) (batchId : String) : Prop :=
  left (node.proofPath batchId) = right (node.proofPath batchId) ∧
    left (node.tracePath batchId) = right (node.tracePath batchId)

theorem valid_files_congr {node : VerifierNode} {left right : Disk} {batchId : String}
    (same : SameFiles node left right batchId) (valid : ValidFiles node left batchId) :
    ValidFiles node right batchId := by
  rcases valid with ⟨proof, trace, ⟨proofBytes, traceBytes, proofRead, traceRead, decoded⟩, rest⟩
  refine ⟨proof, trace, ⟨proofBytes, traceBytes, ?_, ?_, decoded⟩, rest⟩
  · rw [← same.1]
    exact proofRead
  · rw [← same.2]
    exact traceRead

/-! ## What the poller has read is still there -/

/-- The poll has read what the disk still holds, or has given up for good. -/
def PollFaithful (node : VerifierNode) (verifier : VerifiedChain.System)
    (task : VerifiedChain.Task) : Prop :=
  match task.stage with
  | .started => True
  | .proofRead proofBytes => verifier.disk (node.proofPath task.batchId) = .ok proofBytes
  | .filesRead proofBytes traceBytes =>
      verifier.disk (node.proofPath task.batchId) = .ok proofBytes ∧
        verifier.disk (node.tracePath task.batchId) = .ok traceBytes
  | .returned _ => ¬ValidFiles node verifier.disk task.batchId
  | .done => True

structure PollInvariant (node : VerifierNode) (verifier : VerifiedChain.System) : Prop where
  processed : ∀ batchId ∈ verifier.processed, ValidFiles node verifier.disk batchId →
    batchId ∈ verifiedIds verifier.state
  polling : ∀ task ∈ verifier.tasks, task.pollInProgress = true →
    task.batchId ∉ verifiedIds verifier.state → PollFaithful node verifier task

section Polling

variable {node : VerifierNode} {before after : VerifiedChain.System}

theorem faithful_mono {task : VerifiedChain.Task}
    (same : SameFiles node before.disk after.disk task.batchId)
    (faithful : PollFaithful node before task) : PollFaithful node after task := by
  rcases task with ⟨source, batchId, stage⟩
  cases stage with
  | started => exact trivial
  | proofRead proofBytes => exact same.1.symm.trans faithful
  | filesRead proofBytes traceBytes =>
      exact ⟨same.1.symm.trans faithful.1, same.2.symm.trans faithful.2⟩
  | returned result =>
      intro valid
      exact faithful (valid_files_congr ⟨same.1.symm, same.2.symm⟩ valid)
  | done => exact trivial

theorem verified_ids_grow (action : VerifiedChain.Action) :
    ∀ batchId ∈ verifiedIds before.state,
      batchId ∈ verifiedIds (VerifiedChain.step node before action).state := by
  intro batchId member
  rcases @VerifiedChain.step_cases node before action with
    ⟨readings, proof, _, recorded⟩ | same
  · rw [recorded, VerifiedChain.recorded_ids]
    exact List.mem_append_left _ member
  · rw [VerifiedChain.same_ids same]
    exact member

theorem start_keeps_invariant {source : VerifiedChain.Source} {batchId : String}
    {state : VerifierState} (ids : verifiedIds state = verifiedIds before.state)
    (invariant : PollInvariant node before) :
    PollInvariant node ({ before with state := state }.start source batchId) := by
  constructor
  · intro other member valid
    have verified := invariant.processed other member valid
    rw [← ids] at verified
    exact verified
  · intro task member polling unverified
    rcases List.mem_append.mp member with old | new
    · have still : task.batchId ∉ verifiedIds before.state := by
        rw [← ids]
        exact unverified
      have faithful := invariant.polling task old polling still
      exact @faithful_mono node before _ task ⟨rfl, rfl⟩ faithful
    · rw [List.mem_singleton] at new
      subst new
      exact trivial

theorem replace_keeps_invariant {index : Nat} {replacement : VerifiedChain.Task}
    (invariant : PollInvariant node before) (disk : after.disk = before.disk)
    (tasks : after.tasks = before.tasks.set index replacement)
    (more : ∀ batchId ∈ verifiedIds before.state, batchId ∈ verifiedIds after.state)
    (processed : ∀ batchId ∈ after.processed, batchId ∈ before.processed ∨
      (ValidFiles node after.disk batchId → batchId ∈ verifiedIds after.state))
    (faithful : replacement.pollInProgress = true →
      replacement.batchId ∉ verifiedIds after.state → PollFaithful node after replacement) :
    PollInvariant node after := by
  constructor
  · intro batchId member valid
    rcases processed batchId member with old | verified
    · rw [disk] at valid
      exact more batchId (invariant.processed batchId old valid)
    · exact verified valid
  · intro task member polling unverified
    rw [tasks] at member
    rcases List.mem_or_eq_of_mem_set member with old | new
    · have same : SameFiles node before.disk after.disk task.batchId := by
        rw [disk]
        exact ⟨rfl, rfl⟩
      have still := fun early => unverified (more task.batchId early)
      exact faithful_mono same (invariant.polling task old polling still)
    · subst new
      exact faithful polling unverified

theorem read_files_verified {index : Nat} {source : VerifiedChain.Source} {batchId : String}
    {proofBytes traceBytes : List UInt8} (readings : Readings)
    (found : before.tasks[index]? = some ⟨source, batchId, .filesRead proofBytes traceBytes⟩)
    (proofRead : before.disk (node.proofPath batchId) = .ok proofBytes)
    (traceRead : before.disk (node.tracePath batchId) = .ok traceBytes)
    (valid : ValidFiles node before.disk batchId) :
    batchId ∈ verifiedIds (VerifiedChain.step node before (.advance index readings)).state := by
  rcases valid with ⟨proof, trace, ⟨otherProof, otherTrace, sameProof, sameTrace, decoded, parsed⟩,
    named, accepted⟩
  cases proofRead.symm.trans sameProof
  cases traceRead.symm.trans sameTrace
  have attests : VerifiedChain.Attests node before (.advance index readings) readings proof :=
    ⟨trace, by simp [VerifiedChain.verifying, found, decoded, parsed], accepted readings.sp1Ms⟩
  rw [VerifiedChain.step_attests attests, VerifiedChain.recorded_ids, ← named]
  exact List.mem_append_right _ (List.mem_singleton_self _)

theorem valid_files_readable {disk : Disk} {batchId : String}
    (valid : ValidFiles node disk batchId) :
    (∃ proofBytes, disk (node.proofPath batchId) = .ok proofBytes) ∧
      ∃ traceBytes, disk (node.tracePath batchId) = .ok traceBytes := by
  rcases valid with ⟨_, _, ⟨proofBytes, traceBytes, proofRead, traceRead, _⟩, _⟩
  exact ⟨⟨proofBytes, proofRead⟩, ⟨traceBytes, traceRead⟩⟩

theorem set_stage_keeps_invariant {index : Nat} {task : VerifiedChain.Task}
    {stage : VerifiedChain.Stage} (invariant : PollInvariant node before)
    (faithful : VerifiedChain.Task.pollInProgress { task with stage := stage } = true →
      task.batchId ∉ verifiedIds before.state →
      PollFaithful node before { task with stage := stage }) :
    PollInvariant node (before.setStage index task stage) :=
  replace_keeps_invariant invariant rfl rfl (fun _ verified => verified) (fun _ old => .inl old)
    faithful

theorem polling_source {source : VerifiedChain.Source} {batchId : String}
    {left right : VerifiedChain.Stage} (unfinished : left ≠ .done)
    (polling : VerifiedChain.Task.pollInProgress ⟨source, batchId, right⟩ = true) :
    VerifiedChain.Task.pollInProgress ⟨source, batchId, left⟩ = true := by
  cases source with
  | rpc => cases polling
  | broadcast => cases polling
  | poll =>
      cases left with
      | done => exact absurd rfl unfinished
      | _ => rfl

theorem advance_keeps_invariant {index : Nat} {task : VerifiedChain.Task} (readings : Readings)
    (found : before.tasks[index]? = some task) (invariant : PollInvariant node before) :
    PollInvariant node (VerifiedChain.step node before (.advance index readings)) := by
  have member : task ∈ before.tasks := List.mem_of_getElem? found
  rcases task with ⟨source, batchId, stage⟩
  cases stage with
  | started =>
      simp only [VerifiedChain.step, found, VerifiedChain.System.advance]
      cases read : before.disk (node.proofPath batchId) with
      | error reason =>
          apply set_stage_keeps_invariant invariant
          intro _ _ valid
          rcases (valid_files_readable valid).1 with ⟨proofBytes, proofRead⟩
          cases read.symm.trans proofRead
      | ok proofBytes => exact set_stage_keeps_invariant invariant fun _ _ => read
  | proofRead proofBytes =>
      simp only [VerifiedChain.step, found, VerifiedChain.System.advance]
      cases read : before.disk (node.tracePath batchId) with
      | error reason =>
          apply set_stage_keeps_invariant invariant
          intro _ _ valid
          rcases (valid_files_readable valid).2 with ⟨traceBytes, traceRead⟩
          cases read.symm.trans traceRead
      | ok traceBytes =>
          apply set_stage_keeps_invariant invariant
          intro polling unverified
          have faithful := invariant.polling _ member (polling_source (by simp) polling) unverified
          exact ⟨faithful, read⟩
  | filesRead proofBytes traceBytes =>
      have more := @verified_ids_grow node before (.advance index readings)
      have verified := @read_files_verified node before index source batchId proofBytes traceBytes
        readings found
      simp only [VerifiedChain.step, found, VerifiedChain.System.advance] at more verified ⊢
      refine replace_keeps_invariant invariant rfl rfl more (fun _ old => .inl old) ?_
      intro polling unverified valid
      have faithful := invariant.polling _ member (polling_source (by simp) polling)
        fun early => unverified (more batchId early)
      exact unverified (verified faithful.1 faithful.2 valid)
  | returned outcome =>
      have more := @verified_ids_grow node before (.advance index readings)
      simp only [VerifiedChain.step, found, VerifiedChain.System.advance,
        VerifiedChain.System.finish] at more ⊢
      cases source with
      | rpc => exact set_stage_keeps_invariant invariant fun closed _ => by cases closed
      | broadcast =>
          cases outcome <;>
            exact replace_keeps_invariant invariant rfl rfl more (fun _ old => .inl old)
              fun closed _ => by cases closed
      | poll =>
          refine replace_keeps_invariant invariant rfl rfl more ?_ fun closed _ => by cases closed
          intro other processed
          rcases List.mem_cons.mp processed with rfl | old
          · right
            intro valid
            by_contra unverified
            exact invariant.polling _ member rfl unverified valid
          · exact .inl old
  | done =>
      simp only [VerifiedChain.step, found, VerifiedChain.System.advance]
      exact invariant

theorem write_keeps_invariant {name : String} (content : Except String (List UInt8))
    (unread : ¬ReadByPoller node before (node.proofDir.fileAt name)) (invariant : PollInvariant node before) :
    PollInvariant node (VerifiedChain.step node before (.setFile name content)) := by
  have kept : ∀ path, path ≠ node.proofDir.fileAt name →
      (VerifiedChain.step node before (.setFile name content)).disk path = before.disk path :=
    fun path different => if_neg different
  constructor
  · intro batchId member valid
    by_contra unverified
    have proofKept := kept (node.proofPath batchId) fun same =>
      unread (.inl ⟨batchId, member, unverified, .inl same.symm⟩)
    have traceKept := kept (node.tracePath batchId) fun same =>
      unread (.inl ⟨batchId, member, unverified, .inr same.symm⟩)
    exact unverified
      (invariant.processed batchId member (valid_files_congr ⟨proofKept, traceKept⟩ valid))
  · intro task member polling unverified
    have readKept : ∀ path ∈ filesReadBy node task,
        (VerifiedChain.step node before (.setFile name content)).disk path =
          before.disk path := by
      intro path read
      apply kept
      intro same
      rw [same] at read
      exact unread (.inr ⟨task, member, polling, unverified, read⟩)
    have faithful := invariant.polling task member polling unverified
    rcases task with ⟨source, batchId, stage⟩
    cases stage with
    | started => exact trivial
    | proofRead proofBytes =>
        exact (readKept (node.proofPath batchId) (by simp [filesReadBy])).trans faithful
    | filesRead proofBytes traceBytes =>
        exact ⟨(readKept (node.proofPath batchId) (by simp [filesReadBy])).trans faithful.1,
          (readKept (node.tracePath batchId) (by simp [filesReadBy])).trans faithful.2⟩
    | returned result =>
        intro valid
        have proofKept := readKept (node.proofPath batchId) (by simp [filesReadBy])
        have traceKept := readKept (node.tracePath batchId) (by simp [filesReadBy])
        exact faithful (valid_files_congr ⟨proofKept, traceKept⟩ valid)
    | done => exact trivial

theorem poll_entry_keeps_invariant (batchId : String) (invariant : PollInvariant node before) :
    PollInvariant node (VerifiedChain.step node before (.pollEntry batchId)) := by
  rw [VerifiedChain.step]
  split_ifs
  · exact invariant
  · exact start_keeps_invariant rfl invariant

end Polling

section Runs

variable {Policy : Type} [PolicyEngine Policy] {validator : Validator Policy}
variable {node : VerifierNode} {codec : Codec} {system : Exchange}

theorem step_keeps_invariant {action : Action}
    (invariant : PollInvariant node system.verifier)
    (ordered : WrittenBeforeRead node codec system action) :
    PollInvariant node (step validator node codec system action).verifier := by
  cases action with
  | validator inner =>
      simp only [step, verifierAction]
      cases written : system.writes codec (.validator inner) with
      | none => exact invariant
      | some write =>
          exact write_keeps_invariant (.ok write.content) (ordered write written) invariant
  | verifyBatch batchId => exact start_keeps_invariant rfl invariant
  | proofBroadcast message => exact start_keeps_invariant rfl invariant
  | pollEntry batchId => exact poll_entry_keeps_invariant batchId invariant
  | verifierAdvance index readings =>
      simp only [step, verifierAction]
      cases found : system.verifier.tasks[index]? with
      | none =>
          simp only [VerifiedChain.step, found]
          exact invariant
      | some task => exact advance_keeps_invariant readings found invariant

/-- The poller skips no batch in any run in which it reads every file in its final form,
or the batch is verified by then. -/
theorem no_proof_skipped (validator : Validator Policy) (node : VerifierNode) (codec : Codec)
    (disk : Disk) (actions : List Action)
    (ordered : EachStep (step validator node codec) (.init disk) actions
      (WrittenBeforeRead node codec)) :
    Always (step validator node codec) (.init disk) actions (NoneSkipped node) := by
  have initially : PollInvariant node (Exchange.init disk).verifier := by
    constructor
    · intro batchId member
      cases member
    · intro task member
      cases member
  have invariant : Always (step validator node codec) (.init disk) actions
      (fun system => PollInvariant node system.verifier) :=
    always_of_each_step initially
      (fun system action invariant ordered => step_keeps_invariant invariant ordered) ordered
  intro count
  exact (invariant count).processed

/-- Writes that are all over before the first poll come in time. -/
theorem written_before_read_of_late_polls (writes : List ValidatorNode.Action)
    (others : List Action) (silent : ∀ action ∈ others, ∀ system : Exchange,
      system.writes codec action = none)
    (noTasks : system.verifier.tasks = []) (noneProcessed : system.verifier.processed = []) :
    EachStep (step validator node codec) system (writes.map .validator ++ others)
      (WrittenBeforeRead node codec) := by
  induction writes generalizing system with
  | nil =>
      intro count action taken write written
      rw [silent action (List.mem_of_getElem? taken)] at written
      cases written
  | cons inner rest ih =>
      rw [List.map_cons, List.cons_append, each_step_cons]
      constructor
      · intro write _ read
        rcases read with ⟨batchId, member, _⟩ | ⟨task, member, _⟩
        · rw [noneProcessed] at member
          cases member
        · rw [noTasks] at member
          cases member
      · apply ih
        · simp only [step, verifierAction]
          cases system.writes codec (.validator inner) <;> exact noTasks
        · simp only [step, verifierAction]
          cases system.writes codec (.validator inner) <;> exact noneProcessed

end Runs

section Samples

open CatalystSvm.ValidatorNode CatalystSvm.ValidatorRuns CatalystSvm.CommonMerkle

def polledTask : ValidatorNode.Task where
  batchId := "batch_000001"
  transactions := [submittedTransaction 1 (sampleParams "alice") 0]
  stage := .sealed

def polledTrace : ExecutionTrace :=
  (eagerValidator.executor.executeWithTransactions eagerValidator.hashBytes eagerValidator.mode
    (processedBatch polledTask 0 0) polledTask.transactions).getD (paidTrace "" [])

def polledStdin : GuestProgram.Stdin :=
  ProverInputs.proveStdin polledTrace polledTask.transactions

def polledOutcome : Except ProveError Proof :=
  ProverInputs.prove sampleDigest (fun _ => .ok [1]) 0 0 polledTrace polledTask.transactions

def polledProof : Proof :=
  match polledOutcome with
  | .ok proof => proof
  | .error _ => paidProof "" paidCommitment

def polledCodec : Codec where
  serializeProof _ := [1]
  serializeTrace _ := [2]

def polledNode : VerifierNode where
  sdk := replaySdk sampleDigest .wrapping fun _ => .ok polledStdin
  hashBytes := sampleDigest
  proofDir := .under ["proofs"]
  nodeId := "verifier_00000001"
  deserializeProof bytes := if bytes = [1] then .ok polledProof else .error "unexpected end of file"
  parseTrace bytes := if bytes = [2] then .ok polledTrace else .error "EOF while parsing a value"

def emptyDirectory : Disk := fun _ => .error "No such file or directory"

def writeFile : ValidatorNode.Action := .advance 0 (.write (.ok ()))

def untilTrace : List ValidatorNode.Action :=
  [.submit (sampleParams "alice") 0,
    .checkAndSeal 0,
    .advance 0 (.execute 0 0),
    .advance 0 (.prove (.returned polledOutcome) 0),
    writeFile]

def pollBatch (awaits : Nat) : List Action :=
  .pollEntry "batch_000001" :: List.replicate awaits (.verifierAdvance 0 sampleReadings)

/-- The poller lists the directory between the two writes. -/
def earlyPoll : List Action :=
  untilTrace.map .validator ++ pollBatch 3 ++ [.validator writeFile]

def latePoll : List Action :=
  (untilTrace ++ [writeFile]).map .validator ++ pollBatch 4

theorem polled_accepted (sp1Ms : UInt64) :
    Accepts polledNode.sdk sp1Ms polledProof polledTrace := by
  have ran : (GuestProgram.main sampleDigest .wrapping polledStdin).isSome = true := by
    decide +kernel
  have verified : polledNode.sdk.verify polledStdin () = .ok () := by
    simp only [polledNode, replaySdk, ran, if_true]
  have header : ∀ trace transactions,
      HeaderMatches (ProverInputs.proveStdin trace transactions).trace.claimed trace :=
    fun trace transactions => ⟨rfl, rfl, rfl, rfl⟩
  exact (accepts_iff _ _ _ _).mpr
    ⟨polledStdin.trace.claimed, ⟨polledStdin, (), rfl, rfl, verified, rfl⟩, header _ _⟩

end Samples

theorem early_poll_skips_batch :
    ¬Always (step ValidatorRuns.eagerValidator polledNode polledCodec) (.init emptyDirectory)
      earlyPoll (NoneSkipped polledNode) := by
  intro always
  have named : polledProof.batchId = "batch_000001" := by decide +kernel
  have stored : Stores polledNode
      (stateAfter (step ValidatorRuns.eagerValidator polledNode polledCodec)
        (.init emptyDirectory) earlyPoll 10).verifier.disk "batch_000001" polledProof polledTrace :=
    ⟨[1], [2], by decide +kernel, by decide +kernel, rfl, rfl⟩
  have verified := always 10 "batch_000001" (by decide +kernel)
    ⟨polledProof, polledTrace, stored, named, polled_accepted⟩
  exact absurd verified (by decide +kernel)

theorem late_poll_verifies_batch :
    Always (step ValidatorRuns.eagerValidator polledNode polledCodec) (.init emptyDirectory)
      latePoll (NoneSkipped polledNode) := by
  apply no_proof_skipped
  apply written_before_read_of_late_polls _ (pollBatch 4)
  · intro action member system
    rcases List.mem_cons.mp member with rfl | advanced
    · rfl
    · rw [List.eq_of_mem_replicate advanced]
      rfl
  · rfl
  · rfl

end CatalystSvm.ProofPolling
