import CatalystSvm.Library.Runs
import CatalystSvm.Library.TaskLists
import CatalystSvm.Library.Segments
import CatalystSvm.ValidatorNode

/-!
# What a validator run keeps

Sealing cuts the submitted stream into consecutive batches, whatever the
sealers and the running batches do in between. A batch whose processing ends in
an error keeps neither its transactions nor a record of them.
-/

namespace CatalystSvm.ValidatorRuns

open CatalystSvm.CommonTypes CatalystSvm.MachineArithmetic CatalystSvm.BatchPolicy
open CatalystSvm.ExecutionEngine CatalystSvm.IssuedIds CatalystSvm.ValidatorNode
open CatalystSvm.Library.Runs CatalystSvm.Library.TaskLists CatalystSvm.Library.Segments

set_option autoImplicit false

def Stage.isRecorded : Stage → Bool
  | .recorded => true
  | _ => false

def isRecorded (task : Task) : Bool :=
  Stage.isRecorded task.stage

section Steps

variable {Policy : Type} {validator : Validator Policy}

theorem submit_some {params : SubmitTxParams} {now : UInt64} {state after : ValidatorState}
    {tx : Transaction} (submitted : submitTransaction validator params now state = some (after, tx)) :
    ∃ counter, addU64 validator.mode state.txCounter 1 = some counter ∧
      tx = submittedTransaction counter params now ∧
      after = { state with txCounter := counter, pendingTxs := state.pendingTxs ++ [tx] } := by
  simp only [submitTransaction, bind, Option.bind_eq_some_iff, Option.some.injEq,
    Prod.mk.injEq] at submitted
  rcases submitted with ⟨counter, added, rfl, rfl⟩
  exact ⟨counter, added, rfl, rfl⟩

theorem check_and_seal_some [PolicyEngine Policy] {now : UInt64} {state after : ValidatorState} {batchId : String}
    {transactions : List Transaction}
    (sealed : checkAndSealBatch validator now state = some (after, batchId, transactions)) :
    ∃ counter, addU64 validator.mode state.batchCounter 1 = some counter ∧
      state.pendingTxs ≠ [] ∧ batchId = formatBatchId counter ∧
      transactions =
        state.pendingTxs.take (min state.pendingTxs.length validator.batchSize) ∧
      after = { state with
        batchCounter := counter
        pendingTxs :=
          state.pendingTxs.drop (min state.pendingTxs.length validator.batchSize) } := by
  cases pending : state.pendingTxs with
  | nil => simp [checkAndSealBatch, pending] at sealed
  | cons oldest rest =>
      simp only [checkAndSealBatch, pending] at sealed
      split_ifs at sealed
      simp only [bind, Option.bind_eq_some_iff, Option.some.injEq, Prod.mk.injEq] at sealed
      rcases sealed with ⟨counter, added, rfl, rfl, rfl⟩
      exact ⟨counter, added, by simp, rfl, rfl, rfl⟩

theorem next_stage_ended {task : Task} (event : Event) (ended : task.stage.inProgress = false) :
    nextStage validator task event = task.stage := by
  rcases task with ⟨batchId, transactions, stage⟩
  cases stage with
  | recorded => cases event <;> rfl
  | failed reason => cases event <;> rfl
  | panicked => cases event <;> rfl
  | _ => cases ended

theorem next_stage_not_recorded {task : Task} (event : Event)
    (running : task.stage.inProgress = true) :
    Stage.isRecorded (nextStage validator task event) = false := by
  have other : Stage.isRecorded task.stage = false := by
    cases stage : task.stage <;> first | rfl | simp [stage, Stage.inProgress] at running
  unfold nextStage
  split <;> (try exact other) <;> split <;> (try exact other) <;> (try rfl)
  split <;> rfl

theorem advance_cases {system : System} {index : Nat} {task : Task} (event : Event)
    (found : system.tasks[index]? = some task) :
    (∃ proof timestamp, event = .record ∧ task.stage = .saved proof timestamp ∧
      system.advance validator index task event =
        { system.setStage index task .recorded with
          state := { system.state with
            proofs := system.state.proofs ++ [proofRecord task.batchId proof timestamp] } }) ∨
    (task.stage.inProgress = true ∧ system.advance validator index task event =
      system.setStage index task (nextStage validator task event)) ∨
    (task.stage.inProgress = false ∧ system.advance validator index task event = system) := by
  unfold System.advance
  split
  · rename_i proof timestamp saved
    exact .inl ⟨proof, timestamp, rfl, saved, rfl⟩
  · right
    cases progress : task.stage.inProgress with
    | true => exact .inl ⟨rfl, rfl⟩
    | false =>
        right
        refine ⟨rfl, ?_⟩
        rw [next_stage_ended _ progress, System.setStage, set_found found]

end Steps

/-! ## Sealing order and uniqueness -/

def drained (system : System) : List Transaction :=
  (system.tasks.map Task.transactions).flatten

def txIds (system : System) : List String :=
  system.submitted.map fun tx => tx.txId.asStr

def batchIds (system : System) : List String :=
  system.tasks.map Task.batchId

def recordedIds (system : System) : List String :=
  system.state.proofs.map ProofRecord.batchId

structure Sealing (batchSize : Nat) (system : System) : Prop where
  order : drained system ++ system.state.pendingTxs = system.submitted
  sizes : ∀ transactions ∈ system.tasks.map Task.transactions,
    transactions.length ≤ batchSize ∧ (0 < batchSize → transactions ≠ [])
  txCounter : system.state.txCounter = UInt64.ofNat system.submitted.length
  txIds : txIds system = issued formatTxId system.submitted.length
  batchCounter : system.state.batchCounter = UInt64.ofNat system.tasks.length
  batchIds : batchIds system = issued formatBatchId system.tasks.length
  records : (recordedIds system).Perm ((system.tasks.filter isRecorded).map Task.batchId)

theorem init_sealing (batchSize : Nat) : Sealing batchSize .init where
  order := rfl
  sizes := by simp [System.init]
  txCounter := rfl
  txIds := rfl
  batchCounter := rfl
  batchIds := rfl
  records := .refl _

section Sealing

variable {Policy : Type} {validator : Validator Policy} {system : System} {batchSize : Nat}

theorem submit_keeps_sealing [PolicyEngine Policy] (params : SubmitTxParams) (now : UInt64)
    (sealing : Sealing batchSize system) :
    Sealing batchSize (step validator system (.submit params now)) := by
  cases submitted : submitTransaction validator params now system.state with
  | none =>
      simp only [step, submitted]
      exact sealing
  | some result =>
      rcases result with ⟨after, tx⟩
      rcases submit_some submitted with ⟨counter, added, rfl, rfl⟩
      have counted := add_u64_one sealing.txCounter added
      simp only [step, submitted]
      constructor
      case order =>
        rw [← sealing.order]
        exact (List.append_assoc _ _ _).symm
      case txCounter =>
        rw [List.length_append]
        exact counted
      case txIds =>
        have named := sealing.txIds
        unfold ValidatorRuns.txIds at named ⊢
        rw [List.map_append, named, List.length_append, List.length_singleton, issued_succ]
        simp [submittedTransaction, Transaction.new, counted]
      all_goals first
        | exact sealing.sizes
        | exact sealing.batchCounter
        | exact sealing.batchIds
        | exact sealing.records

theorem seal_keeps_sealing [PolicyEngine Policy] (now : UInt64)
    (sealing : Sealing validator.batchSize system) :
    Sealing validator.batchSize (step validator system (.checkAndSeal now)) := by
  cases sealed : checkAndSealBatch validator now system.state with
  | none =>
      simp only [step, sealed]
      exact sealing
  | some result =>
      rcases result with ⟨after, batchId, transactions⟩
      rcases check_and_seal_some sealed with ⟨counter, added, nonempty, rfl, rfl, rfl⟩
      have counted := add_u64_one sealing.batchCounter added
      simp only [step, sealed]
      constructor
      case order =>
        rw [← sealing.order]
        simp only [drained, List.map_append, List.flatten_append, List.map_cons, List.map_nil,
          List.flatten_cons, List.flatten_nil, List.append_nil, List.append_assoc,
          List.take_append_drop]
      case sizes =>
        intro transactions member
        rw [List.map_append, List.mem_append] at member
        rcases member with old | new
        · exact sealing.sizes transactions old
        · rw [List.map_singleton, List.mem_singleton] at new
          subst new
          have pending : 0 < system.state.pendingTxs.length := List.length_pos_iff.mpr nonempty
          constructor
          · rw [List.length_take]
            omega
          · intro positive empty
            have none := congrArg List.length empty
            rw [List.length_take, List.length_nil] at none
            omega
      case txCounter => exact sealing.txCounter
      case txIds => exact sealing.txIds
      case batchCounter =>
        rw [List.length_append]
        exact counted
      case batchIds =>
        have named := sealing.batchIds
        unfold ValidatorRuns.batchIds at named ⊢
        rw [List.map_append, named, List.length_append, List.length_singleton, issued_succ,
          ← counted]
        rfl
      case records =>
        have same : (system.tasks ++ [Task.mk (formatBatchId counter)
            (system.state.pendingTxs.take
              (min system.state.pendingTxs.length validator.batchSize)) .sealed]).filter
              isRecorded = system.tasks.filter isRecorded := by
          simp [isRecorded, Stage.isRecorded]
        rw [same]
        exact sealing.records

theorem set_stage_keeps_sealing {index : Nat} {task : Task} {stage : Stage}
    {proofs : List ProofRecord} (found : system.tasks[index]? = some task)
    (sealing : Sealing batchSize system)
    (records : (proofs.map ProofRecord.batchId).Perm
      (((system.tasks.set index { task with stage := stage }).filter isRecorded).map
        Task.batchId)) :
    Sealing batchSize { system.setStage index task stage with
      state := { system.state with proofs := proofs } } := by
  have transactions : (system.tasks.set index { task with stage := stage }).map
      Task.transactions = system.tasks.map Task.transactions :=
    map_set_same Task.transactions found rfl
  have ids : (system.tasks.set index { task with stage := stage }).map Task.batchId =
      system.tasks.map Task.batchId :=
    map_set_same Task.batchId found rfl
  constructor
  case order =>
    simp only [drained, System.setStage, transactions]
    exact sealing.order
  case sizes =>
    simp only [System.setStage, transactions]
    exact sealing.sizes
  case txCounter => exact sealing.txCounter
  case txIds => exact sealing.txIds
  case batchCounter =>
    simp only [System.setStage, List.length_set]
    exact sealing.batchCounter
  case batchIds =>
    simp only [ValidatorRuns.batchIds, System.setStage, List.length_set, ids]
    exact sealing.batchIds
  case records => exact records

theorem advance_keeps_sealing {index : Nat} {task : Task} (event : Event)
    (found : system.tasks[index]? = some task) (sealing : Sealing batchSize system) :
    Sealing batchSize (system.advance validator index task event) := by
  rcases advance_cases event found with
    ⟨proof, timestamp, _, saved, result⟩ | ⟨running, result⟩ | ⟨_, result⟩
  · rw [result]
    apply set_stage_keeps_sealing found sealing
    have before : isRecorded task = false := by simp [isRecorded, saved, Stage.isRecorded]
    have after : isRecorded { task with stage := .recorded } = true := rfl
    have joins := filter_set_perm_of_joins isRecorded found before after
    have appended : ((system.state.proofs ++ [proofRecord task.batchId proof timestamp]).map
        ProofRecord.batchId).Perm (task.batchId :: recordedIds system) := by
      rw [List.map_append]
      exact List.perm_append_singleton _ _
    exact appended.trans ((sealing.records.cons _).trans (joins.map Task.batchId).symm)
  · rw [result]
    apply set_stage_keeps_sealing found sealing
    have before : isRecorded task = false := by
      unfold isRecorded
      cases stage : task.stage <;> first | rfl | simp [stage, Stage.inProgress] at running
    have after : isRecorded { task with stage := nextStage validator task event } = false :=
      next_stage_not_recorded event running
    have outside := filter_set_perm_of_outside isRecorded found before after
    exact sealing.records.trans (outside.map Task.batchId).symm
  · rw [result]
    exact sealing

theorem step_keeps_sealing [PolicyEngine Policy] (action : Action)
    (sealing : Sealing validator.batchSize system) :
    Sealing validator.batchSize (step validator system action) := by
  cases action with
  | submit params now => exact submit_keeps_sealing params now sealing
  | checkAndSeal now => exact seal_keeps_sealing now sealing
  | advance index event =>
      cases found : system.tasks[index]? with
      | none =>
          simp only [step, found]
          exact sealing
      | some task =>
          simp only [step, found]
          exact advance_keeps_sealing event found sealing

/-- A validator that takes transactions into its batches seals at most one batch
for each of them. -/
theorem sealed_le_submitted (sealing : Sealing batchSize system) (positive : 0 < batchSize) :
    system.tasks.length ≤ system.submitted.length := by
  have filled := segments_le_items fun transactions member =>
    (sealing.sizes transactions member).2 positive
  rw [List.length_map] at filled
  rw [← sealing.order, List.length_append, drained]
  omega

end Sealing

section SealingRuns

variable {Policy : Type} [PolicyEngine Policy] (validator : Validator Policy)

theorem run_sealing (actions : List Action) :
    Always (step validator) .init actions (Sealing validator.batchSize) := by
  have free : EachStep (step validator) System.init actions fun _ _ => True :=
    fun count action taken => trivial
  exact always_of_each_step (init_sealing _)
    (fun system action sealing _ => step_keeps_sealing action sealing) free

/-- In every state of every run the batches, in the order of their counter, and the
queue after them are the submitted transactions in the order of theirs. No batch
exceeds `batch_size`, and no identifier is given out twice. -/
theorem sealing_order_and_uniqueness (actions : List Action) (count : Nat)
    (submissions : (stateAfter (step validator) .init actions count).submitted.length < 2 ^ 64)
    (seals : validator.batchSize = 0 →
      (stateAfter (step validator) .init actions count).tasks.length < 2 ^ 64) :
    let system := stateAfter (step validator) .init actions count
    drained system ++ system.state.pendingTxs = system.submitted ∧
      txIds system = issued formatTxId system.submitted.length ∧
      batchIds system = issued formatBatchId system.tasks.length ∧
      (∀ task ∈ system.tasks, task.transactions.length ≤ validator.batchSize) ∧
      (txIds system).Nodup ∧ (batchIds system).Nodup ∧ (recordedIds system).Nodup := by
  intro system
  have sealing : Sealing validator.batchSize system := run_sealing validator actions count
  have fewSeals : system.tasks.length < 2 ^ 64 := by
    rcases Nat.eq_zero_or_pos validator.batchSize with empty | positive
    · exact seals empty
    · exact Nat.lt_of_le_of_lt (sealed_le_submitted sealing positive) submissions
  have distinctTxs : (txIds system).Nodup := by
    rw [sealing.txIds]
    exact issued_nodup format_tx_id_injective submissions
  have distinctBatches : (batchIds system).Nodup := by
    rw [sealing.batchIds]
    exact issued_nodup format_batch_id_injective fewSeals
  have distinctRecords : (recordedIds system).Nodup := by
    rw [sealing.records.nodup_iff]
    exact distinctBatches.sublist (List.filter_sublist.map Task.batchId)
  have sizes : ∀ task ∈ system.tasks, task.transactions.length ≤ validator.batchSize := by
    intro task member
    exact (sealing.sizes task.transactions (List.mem_map_of_mem member)).1
  exact ⟨sealing.order, sealing.txIds, sealing.batchIds, sizes, distinctTxs, distinctBatches,
    distinctRecords⟩

end SealingRuns

section Samples

def sampleParams (sender : String) : SubmitTxParams where
  sender := sender
  programId := "program"
  instructionData := [3]
  priority := none

/-- Seals every transaction that arrives, up to two in a batch. -/
def eagerValidator : Validator FixedCountPolicy where
  policy := { threshold := 1 }
  executor := FullExecutor.new 200000
  batchSize := 2
  hashBytes := CommonMerkle.sampleDigest
  mode := .wrapping

def emptySealer : Validator FixedCountPolicy :=
  { eagerValidator with policy := { threshold := 0 }, batchSize := 0 }

def emptySeals (seals : Nat) : List Action :=
  .submit (sampleParams "alice") 0 :: List.replicate seals (.checkAndSeal 0)

end Samples

theorem two_submissions_sealed_together :
    let actions := [Action.submit (sampleParams "alice") 0, .submit (sampleParams "bob") 0,
      .submit (sampleParams "carol") 0, .checkAndSeal 7]
    let system := stateAfter (step eagerValidator) .init actions 4
    drained system ++ system.state.pendingTxs = system.submitted ∧
      txIds system = issued formatTxId system.submitted.length ∧
      batchIds system = issued formatBatchId system.tasks.length ∧
      (∀ task ∈ system.tasks, task.transactions.length ≤ eagerValidator.batchSize) ∧
      (txIds system).Nodup ∧ (batchIds system).Nodup ∧ (recordedIds system).Nodup :=
  sealing_order_and_uniqueness eagerValidator _ 4 (by decide) (by decide)

theorem empty_seal (system : System) (tx : Transaction) (pending : system.state.pendingTxs = [tx]) :
    (step emptySealer system (.checkAndSeal 0)).state.pendingTxs = [tx] ∧
      (step emptySealer system (.checkAndSeal 0)).submitted = system.submitted ∧
      (step emptySealer system (.checkAndSeal 0)).tasks.length = system.tasks.length + 1 := by
  have sealed : checkAndSealBatch emptySealer 0 system.state =
      some ({ system.state with
          batchCounter := system.state.batchCounter + 1
          pendingTxs := [tx] },
        formatBatchId (system.state.batchCounter + 1), []) := by
    simp [checkAndSealBatch, pending, emptySealer, eagerValidator, PolicyEngine.shouldSeal, addU64]
  simp [step, sealed]

/-- A validator that drains nothing seals as often as it is asked to. -/
theorem empty_seals_run (seals : Nat) :
    ∃ tx, ((emptySeals seals).foldl (step emptySealer) .init).state.pendingTxs = [tx] ∧
      ((emptySeals seals).foldl (step emptySealer) .init).submitted = [tx] ∧
      ((emptySeals seals).foldl (step emptySealer) .init).tasks.length = seals := by
  induction seals with
  | zero => exact ⟨submittedTransaction 1 (sampleParams "alice") 0, rfl, rfl, rfl⟩
  | succ seals ih =>
      rcases ih with ⟨tx, pending, submitted, sealed⟩
      have longer : emptySeals (seals + 1) = emptySeals seals ++ [.checkAndSeal 0] := by
        rw [emptySeals, List.replicate_succ', emptySeals, List.cons_append]
      rw [longer, List.foldl_append]
      rcases empty_seal _ tx pending with ⟨pendingNext, submittedNext, sealedNext⟩
      rw [sealed] at sealedNext
      exact ⟨tx, pendingNext, submittedNext.trans submitted, sealedNext⟩

theorem empty_seals_issue (seals : Nat) :
    ∃ count, (stateAfter (step emptySealer) .init (emptySeals seals) count).submitted.length = 1 ∧
      batchIds (stateAfter (step emptySealer) .init (emptySeals seals) count) =
        issued formatBatchId seals := by
  rcases empty_seals_run seals with ⟨tx, _, submitted, sealed⟩
  have whole : stateAfter (step emptySealer) .init (emptySeals seals) (emptySeals seals).length =
      (emptySeals seals).foldl (step emptySealer) .init := by
    rw [stateAfter, List.take_length]
  have named := (run_sealing emptySealer (emptySeals seals) (emptySeals seals).length).batchIds
  refine ⟨(emptySeals seals).length, ?_, ?_⟩
  · rw [whole, submitted, List.length_singleton]
  · rw [named, whole, sealed]

/-- With `batch_size` zero the number of submissions does not bound the number of
seals: after `2 ^ 64` empty batches the first batch identifier comes back. -/
theorem empty_batches_reuse_identifiers :
    ¬∀ actions count,
      (stateAfter (step emptySealer) .init actions count).submitted.length < 2 ^ 64 →
        (batchIds (stateAfter (step emptySealer) .init actions count)).Nodup := by
  intro distinct
  rcases empty_seals_issue (2 ^ 64 + 1) with ⟨count, one, named⟩
  have apart := distinct (emptySeals (2 ^ 64 + 1)) count
    (by rw [one]; exact Nat.one_lt_two_pow (by decide))
  rw [named] at apart
  exact issued_repeats formatBatchId (Nat.lt_succ_self _) apart

/-! ## Transactions of failed batches -/

/-- Every submitted transaction waits, is being processed, or is in a batch with a record. -/
def Kept (system : System) : Prop :=
  ∀ tx ∈ system.submitted, tx ∈ system.state.pendingTxs ∨
    ∃ task ∈ system.tasks, tx ∈ task.transactions ∧
      (task.stage.inProgress = true ∨ task.batchId ∈ recordedIds system)

def Held (system : System) : Prop :=
  ∀ task ∈ system.tasks, task.transactions ≠ [] →
    task.stage.inProgress = true ∨ task.batchId ∈ recordedIds system

/-- The executor returns, the prover returns a proof, the file is written. -/
def Succeeds {Policy : Type} (validator : Validator Policy) (task : Task) : Event → Prop
  | .execute startTs sealTs =>
      match task.stage with
      | .sealed =>
          (validator.executor.executeWithTransactions validator.hashBytes validator.mode
            (processedBatch task startTs sealTs) task.transactions).isSome = true
      | _ => True
  | .prove outcome _ =>
      match task.stage with
      | .executed _ => ∃ proof, outcome = .returned (.ok proof)
      | _ => True
  | .write outcome =>
      match task.stage with
      | .proved .. | .proofWritten .. => outcome = .ok ()
      | _ => True
  | .tear _ => True
  | .record => True

def NoBatchFails {Policy : Type} (validator : Validator Policy) (system : System) :
    Action → Prop
  | .advance index event => ∀ task, system.tasks[index]? = some task →
      task.transactions ≠ [] → Succeeds validator task event
  | _ => True

section Failures

variable {Policy : Type} {validator : Validator Policy} {system : System} {batchSize : Nat}

theorem next_stage_in_progress_iff {task : Task} (event : Event)
    (running : task.stage.inProgress = true) :
    (nextStage validator task event).inProgress = true ↔ Succeeds validator task event := by
  rcases task with ⟨batchId, transactions, stage⟩
  cases event with
  | execute startTs sealTs =>
      cases stage with
      | sealed =>
          simp only [nextStage, Succeeds]
          split <;> simp [*, Stage.inProgress]
      | _ => simp [nextStage, Succeeds, running]
  | prove outcome timestamp =>
      cases stage with
      | executed trace =>
          rcases outcome with (error | proof) | joinError <;>
            simp [nextStage, Succeeds, Stage.inProgress]
      | _ => simp [nextStage, Succeeds, running]
  | tear count => simp [nextStage, Succeeds, running]
  | write outcome =>
      cases stage with
      | proved trace proof timestamp =>
          cases outcome <;> simp [nextStage, Succeeds, Stage.inProgress]
      | proofWritten trace proof timestamp =>
          cases outcome <;> simp [nextStage, Succeeds, Stage.inProgress]
      | _ => simp [nextStage, Succeeds, running]
  | record => simp [nextStage, Succeeds, running]

theorem mem_submitted_iff (sealing : Sealing batchSize system) (tx : Transaction) :
    tx ∈ system.submitted ↔
      (∃ task ∈ system.tasks, tx ∈ task.transactions) ∨ tx ∈ system.state.pendingTxs := by
  rw [← sealing.order, List.mem_append, drained, List.mem_flatten]
  simp only [List.mem_map, exists_exists_and_eq_and]

theorem kept_of_held (sealing : Sealing batchSize system) (held : Held system) : Kept system := by
  intro tx submitted
  rcases (mem_submitted_iff sealing tx).mp submitted with ⟨task, member, inside⟩ | pending
  · have nonempty : task.transactions ≠ [] := List.ne_nil_of_mem inside
    exact .inr ⟨task, member, inside, held task member nonempty⟩
  · exact .inl pending

theorem submitted_nodup (sealing : Sealing batchSize system)
    (few : system.submitted.length < 2 ^ 64) : system.submitted.Nodup := by
  have names : (txIds system).Nodup := by
    rw [sealing.txIds]
    exact issued_nodup format_tx_id_injective few
  exact names.of_map _

theorem held_of_kept (sealing : Sealing batchSize system)
    (few : system.submitted.length < 2 ^ 64) (kept : Kept system) : Held system := by
  intro task member nonempty
  rcases List.exists_mem_of_ne_nil _ nonempty with ⟨tx, inside⟩
  have distinct := submitted_nodup sealing few
  rw [← sealing.order, List.nodup_append] at distinct
  rcases distinct with ⟨distinctDrained, _, apart⟩
  have isDrained : tx ∈ drained system :=
    List.mem_flatten.mpr ⟨_, List.mem_map_of_mem member, inside⟩
  have isSubmitted : tx ∈ system.submitted :=
    (mem_submitted_iff sealing tx).mpr (.inl ⟨task, member, inside⟩)
  rcases kept tx isSubmitted with pending | ⟨other, otherIn, otherInside, processed⟩
  · exact absurd rfl (apart tx isDrained tx pending)
  · have same := owner_unique Task.transactions distinctDrained member otherIn inside otherInside
    rw [same]
    exact processed

theorem recorded_ids_append (proofs : List ProofRecord) (record : ProofRecord) (batchId : String)
    (member : batchId ∈ proofs.map ProofRecord.batchId) :
    batchId ∈ (proofs ++ [record]).map ProofRecord.batchId := by
  rw [List.map_append]
  exact List.mem_append_left _ member

theorem advance_keeps_held {index : Nat} {task : Task} {event : Event}
    (found : system.tasks[index]? = some task) (held : Held system)
    (succeeds : task.transactions ≠ [] → Succeeds validator task event) :
    Held (system.advance validator index task event) := by
  rcases advance_cases event found with
    ⟨proof, timestamp, _, saved, result⟩ | ⟨running, result⟩ | ⟨_, result⟩
  · rw [result]
    intro other member nonempty
    rcases List.mem_or_eq_of_mem_set member with old | new
    · rcases held other old nonempty with progress | recorded
      · exact .inl progress
      · exact .inr (recorded_ids_append _ _ _ recorded)
    · subst new
      right
      simp [recordedIds, proofRecord]
  · rw [result]
    intro other member nonempty
    rcases List.mem_or_eq_of_mem_set member with old | new
    · exact held other old nonempty
    · subst new
      exact .inl ((next_stage_in_progress_iff event running).mpr (succeeds nonempty))
  · rw [result]
    exact held

theorem step_keeps_held [PolicyEngine Policy] {action : Action} (held : Held system)
    (succeeds : NoBatchFails validator system action) : Held (step validator system action) := by
  cases action with
  | submit params now =>
      cases submitted : submitTransaction validator params now system.state with
      | none =>
          simp only [step, submitted]
          exact held
      | some result =>
          rcases result with ⟨after, tx⟩
          rcases submit_some submitted with ⟨counter, added, rfl, rfl⟩
          simp only [step, submitted]
          exact held
  | checkAndSeal now =>
      cases sealed : checkAndSealBatch validator now system.state with
      | none =>
          simp only [step, sealed]
          exact held
      | some result =>
          rcases result with ⟨after, batchId, transactions⟩
          rcases check_and_seal_some sealed with ⟨counter, added, nonempty, rfl, rfl, rfl⟩
          simp only [step, sealed]
          intro task member filled
          rcases List.mem_append.mp member with old | new
          · exact held task old filled
          · rw [List.mem_singleton] at new
            subst new
            exact .inl rfl
  | advance index event =>
      cases found : system.tasks[index]? with
      | none =>
          simp only [step, found]
          exact held
      | some task =>
          simp only [step, found]
          exact advance_keeps_held found held (succeeds task found)

theorem running_batch_unrecorded {task : Task} (sealing : Sealing batchSize system)
    (few : system.submitted.length < 2 ^ 64) (member : task ∈ system.tasks)
    (nonempty : task.transactions ≠ []) (running : task.stage.inProgress = true) :
    task.batchId ∉ recordedIds system := by
  intro recorded
  have bound := (sealing.sizes task.transactions (List.mem_map_of_mem member)).1
  have positive : 0 < batchSize :=
    Nat.lt_of_lt_of_le (List.length_pos_iff.mpr nonempty) bound
  have distinct : (batchIds system).Nodup := by
    rw [sealing.batchIds]
    exact issued_nodup format_batch_id_injective
      (Nat.lt_of_le_of_lt (sealed_le_submitted sealing positive) few)
  rcases List.mem_map.mp (sealing.records.mem_iff.mp recorded) with ⟨other, selected, same⟩
  rcases List.mem_filter.mp selected with ⟨otherIn, otherRecorded⟩
  have equal := List.inj_on_of_nodup_map distinct otherIn member same
  rw [equal, isRecorded] at otherRecorded
  cases stage : task.stage <;> simp [stage, Stage.inProgress, Stage.isRecorded] at *

theorem step_needs_success [PolicyEngine Policy] {action : Action}
    (sealing : Sealing batchSize system) (few : system.submitted.length < 2 ^ 64)
    (held : Held (step validator system action)) : NoBatchFails validator system action := by
  cases action with
  | submit params now => exact trivial
  | checkAndSeal now => exact trivial
  | advance index event =>
      intro task found nonempty
      simp only [step, found] at held
      rcases advance_cases event found with
        ⟨proof, timestamp, rfl, _, _⟩ | ⟨running, result⟩ | ⟨ended, _⟩
      · exact trivial
      · rw [result] at held
        have unrecorded := running_batch_unrecorded sealing few (List.mem_of_getElem? found)
          nonempty running
        rcases held _ (replacement_mem found) nonempty with progress | recorded
        · exact (next_stage_in_progress_iff event running).mp progress
        · exact absurd recorded unrecorded
      · rcases task with ⟨batchId, transactions, stage⟩
        cases stage <;> cases event <;> first | exact trivial | cases ended

end Failures

/-- A run loses no transaction when no step of `process_batch` fails for a batch
that has some, and as long as transactions are distinct only then. -/
theorem transactions_kept_iff_no_batch_fails {Policy : Type} [PolicyEngine Policy]
    (validator : Validator Policy) (actions : List Action) :
    (EachStep (step validator) .init actions (NoBatchFails validator) →
      Always (step validator) .init actions Kept) ∧
    (Always (step validator) .init actions (fun system => system.submitted.length < 2 ^ 64) →
      Always (step validator) .init actions Kept →
      EachStep (step validator) .init actions (NoBatchFails validator)) := by
  have sealing := run_sealing validator actions
  constructor
  · intro succeed count
    have initially : Held System.init := by
      intro task member
      cases member
    have held : Always (step validator) .init actions Held :=
      always_of_each_step initially
        (fun system action held succeeds => step_keeps_held held succeeds) succeed
    exact kept_of_held (sealing count) (held count)
  · intro few kept count action taken
    have next := held_of_kept (sealing (count + 1)) (few (count + 1)) (kept (count + 1))
    rw [state_after_succ taken] at next
    exact step_needs_success (sealing count) (few count) next

/-- Alice submits an unknown opcode, on which the guest panics; Bob's transaction is
sealed with hers. -/
def unprovableRun : List Action :=
  [.submit { sampleParams "alice" with instructionData := [9] } 0,
    .submit (sampleParams "bob") 0,
    .checkAndSeal 0,
    .advance 0 (.execute 0 0),
    .advance 0 (.prove (.returned (.error (.internal "execution failed"))) 0)]

theorem failed_proof_loses_transactions :
    ¬Always (step eagerValidator) .init unprovableRun Kept := by
  intro kept
  have last := kept 5
  unfold Kept at last
  exact absurd last (by decide +kernel)

theorem executed_batch_is_kept :
    Always (step eagerValidator) .init
      [.submit (sampleParams "alice") 0, .checkAndSeal 0, .advance 0 (.execute 0 0)] Kept := by
  apply (transactions_kept_iff_no_batch_fails eagerValidator _).1
  rw [each_step_cons, each_step_cons, each_step_cons]
  refine ⟨trivial, trivial, ?_, each_step_nil _ _ _⟩
  intro task found _
  cases found
  rw [Succeeds]
  decide +kernel

end CatalystSvm.ValidatorRuns
