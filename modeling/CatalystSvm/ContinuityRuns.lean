import CatalystSvm.BatchContinuity
import CatalystSvm.PipelineBatches
import CatalystSvm.ValidatorRuns

/-!
# State continuity over whole runs

The batches of a validator run are consecutive segments of what was submitted, and
those of a pipeline run are consecutive segments of what was ingested, each with its
fast lane first. Which streams keep their state from batch to batch is then a matter
of the stream alone.
-/

namespace CatalystSvm.ContinuityRuns

open CatalystSvm.CommonTypes CatalystSvm.CommonMerkle CatalystSvm.MachineArithmetic
open CatalystSvm.BatchPolicy CatalystSvm.CommonMetrics CatalystSvm.TraceBuilding
open CatalystSvm.ExecutionEngine CatalystSvm.BatchContinuity CatalystSvm.Library.Runs

set_option autoImplicit false

def Continuous (hashBytes : HashBytes) (mode : OverflowMode) (executor : FullExecutor)
    (batches : List (List Transaction)) : Prop :=
  ∀ index left right, batches[index]? = some left → batches[index + 1]? = some right →
    ∀ leftBatch rightBatch leftTrace rightTrace,
      executor.executeWithTransactions hashBytes mode leftBatch left = some leftTrace →
      executor.executeWithTransactions hashBytes mode rightBatch right = some rightTrace →
      rightTrace.stateRootPre = leftTrace.stateRootPost

theorem continuous_of_linked (hashBytes : HashBytes) {mode : OverflowMode} (maxCuPerTx : UInt64)
    {batches : List (List Transaction)} (linked : Linked mode batches) :
    Continuous hashBytes mode (.new maxCuPerTx) batches := by
  intro index left right leftFound rightFound leftBatch rightBatch leftTrace rightTrace
    leftExecuted rightExecuted
  rcases executed_roots leftExecuted with ⟨_, final, ended, post⟩
  rw [(executed_roots rightExecuted).1, post,
    linked index left right leftFound rightFound final ended]

/-- Every cutting of the stream ends with the accounts with which the batches end. -/
def OneEnd (mode : OverflowMode) (fast : Transaction → Bool) (stream : List Transaction)
    (batches : List (List Transaction)) : Prop :=
  ∀ others accounts otherAccounts, Cutting fast stream others → EndsWith mode batches accounts →
    EndsWith mode others otherAccounts → accounts = otherAccounts

/-! ## Batches of the validator -/

section ValidatorBatches

open CatalystSvm.ValidatorNode CatalystSvm.ValidatorRuns

variable {system : System} {batchSize : Nat}

def oneLane (_ : Transaction) : Bool := false

theorem lanes_one_lane (segment : List Transaction) : lanes oneLane segment = segment := by
  simp [lanes, oneLane]

theorem validator_cutting (sealing : Sealing batchSize system) (positive : 0 < batchSize) :
    Cutting oneLane (drained system) (system.tasks.map Task.transactions) := by
  refine ⟨system.tasks.map Task.transactions, rfl, ?_, ?_⟩
  · intro segment member
    exact (sealing.sizes segment member).2 positive
  · rw [List.map_congr_left fun segment _ => lanes_one_lane segment, List.map_id']

theorem empty_batches_linked (mode : OverflowMode) {batches : List (List Transaction)}
    (empty : ∀ batch ∈ batches, batch = []) : Linked mode batches := by
  intro index left right leftFound rightFound final ended
  rw [empty left (List.mem_of_getElem? leftFound)] at ended
  rw [empty right (List.mem_of_getElem? rightFound)]
  exact (Option.some.inj ended).symm

theorem batches_empty (sealing : Sealing batchSize system) (zero : batchSize = 0) :
    ∀ batch ∈ system.tasks.map Task.transactions, batch = [] := by
  intro batch member
  have short := (sealing.sizes batch member).1
  rw [zero] at short
  exact List.length_eq_zero_iff.mp (Nat.le_zero.mp short)

theorem validator_batches_linked (mode : OverflowMode) (sealing : Sealing batchSize system)
    (steady : Steady oneLane system.submitted) :
    Linked mode (system.tasks.map Task.transactions) := by
  rcases Nat.eq_zero_or_pos batchSize with zero | positive
  · exact empty_batches_linked mode (batches_empty sealing zero)
  · rw [← sealing.order] at steady
    exact linked_of_steady steady (validator_cutting sealing positive)

theorem validator_one_end {mode : OverflowMode} (sealing : Sealing batchSize system)
    (steady : Steady oneLane system.submitted) (done : system.state.pendingTxs = []) :
    OneEnd mode oneLane system.submitted (system.tasks.map Task.transactions) := by
  intro others accounts otherAccounts cut ends otherEnds
  have whole := sealing.order
  rw [done, List.append_nil] at whole
  rcases Nat.eq_zero_or_pos batchSize with zero | positive
  · -- Nothing was ever taken, so there is nothing to cut.
    have nothing : drained system = [] := by
      rw [drained, List.flatten_eq_nil_iff]
      exact batches_empty sealing zero
    rcases ends_of_steady steady cut otherEnds with ⟨last, _, atEnd, _⟩
    rw [← whole, nothing] at atEnd
    cases atEnd
  · have own := validator_cutting sealing positive
    rw [whole] at own
    exact ((steady_iff mode oneLane system.submitted).mp steady).2 _ _ _ _ own cut ends otherEnds

end ValidatorBatches

/-! ## Batches of the pipeline -/

section PipelineBatches

open CatalystSvm.PipelineEngine CatalystSvm.PipelineRuns

def ingested : List Call → List Transaction
  | [] => []
  | .ingest tx :: rest => tx :: ingested rest
  | .flush :: rest => ingested rest

structure Queued {Policy : Type} (held : List Transaction) (engine : Engine Policy) : Prop where
  lane : engine.priorityLane = held.filter fastLane
  queue : engine.queue = held.filter fun tx => !fastLane tx

variable {Policy World : Type} [PolicyEngine Policy] [Clock World]

/-- Every batch that a run seals, also those that fail later. -/
def sealedBatches (setup : Setup World) :
    Option (Machine Policy World) → List Call → List (List Transaction)
  | none, _ => []
  | some _, [] => []
  | some machine, call :: rest =>
      (sealPoint call machine).toList.map (fun point => point.engine.pending) ++
        sealedBatches setup (callStep setup (some machine) call) rest

omit [PolicyEngine Policy] in
theorem resting_queued {held : List Transaction} {machine : Machine Policy World} (call : Call)
    (queued : Queued held machine.engine) :
    Queued (held ++ ingested [call]) (resting call machine).engine := by
  cases call with
  | flush =>
      rw [ingested, ingested, List.append_nil]
      exact queued
  | ingest tx =>
      change Queued (held ++ [tx]) (enqueue tx machine).engine
      rw [enqueue_engine]
      constructor
      · rw [List.filter_append, ← queued.lane]
      · rw [List.filter_append, ← queued.queue]

theorem sealed_queued {setup : Setup World} {point after : Machine Policy World}
    {result : Except ExecError Unit} (filled : point.engine.pending ≠ [])
    (sealed : sealAndProcess setup point = some (result, after)) : Queued [] after.engine := by
  have spec := seal_spec setup point
  rw [sealed] at spec
  cases spec with
  | idle empty => exact absurd empty filled
  | failed _ executed rejected => exact ⟨rfl, rfl⟩
  | recorded _ executed accepted => exact ⟨rfl, rfl⟩

theorem foldl_stopped (setup : Setup World) (calls : List Call) :
    calls.foldl (callStep setup) (none : Option (Machine Policy World)) = none := by
  induction calls with
  | nil => rfl
  | cons call rest ih => exact ih

theorem ingested_cons (call : Call) (rest : List Call) :
    ingested (call :: rest) = ingested [call] ++ ingested rest := by
  cases call <;> rfl

/-- A run cuts its stream, up to what is still queued or comes after a panic. -/
theorem pipeline_cutting (setup : Setup World) (calls : List Call) (held : List Transaction)
    (machine : Machine Policy World) (queued : Queued held machine.engine) :
    ∃ taken left, held ++ ingested calls = taken ++ left ∧
      Cutting fastLane taken (sealedBatches setup (some machine) calls) ∧
      ∀ final, calls.foldl (callStep setup) (some machine) = some final →
        Queued left final.engine := by
  induction calls generalizing held machine with
  | nil =>
      refine ⟨[], held, by simp [ingested], ⟨[], rfl, by simp, rfl⟩, ?_⟩
      intro final reached
      cases reached
      exact queued
  | cons call rest ih =>
      have more := resting_queued call queued
      rw [ingested_cons, ← List.append_assoc, List.foldl_cons]
      rcases perform_cases setup call machine with
        ⟨rests, performed⟩ | ⟨point, seals, same, filled, performed⟩
      · have stepped : callStep setup (some machine) call = some (resting call machine) := by
          rw [callStep, performed]
          rfl
        rw [sealedBatches, stepped, rests]
        exact ih _ _ more
      · -- The batch takes everything held, in the order of the lanes.
        have pending : point.engine.pending = lanes fastLane (held ++ ingested [call]) := by
          rw [same, Engine.pending, more.lane, more.queue]
          rfl
        have nonempty : held ++ ingested [call] ≠ [] := by
          intro empty
          rw [pending, empty] at filled
          exact filled rfl
        rw [sealedBatches, seals, Option.toList_some, List.map_singleton, pending, callStep,
          performed]
        cases sealed : sealAndProcess setup point with
        | none =>
            refine ⟨held ++ ingested [call], ingested rest, rfl,
              ⟨[held ++ ingested [call]], by simp, by simpa using nonempty, ?_⟩, ?_⟩
            · rw [Option.map_none, sealedBatches]
              rfl
            · intro final reached
              rw [Option.map_none, foldl_stopped] at reached
              cases reached
        | some outcome =>
            rcases ih [] outcome.2 (sealed_queued filled sealed) with
              ⟨taken, left, stream, ⟨segments, rfl, others, batches⟩, ends⟩
            rw [List.nil_append] at stream
            refine ⟨held ++ ingested [call] ++ segments.flatten, left, ?_,
              ⟨(held ++ ingested [call]) :: segments, rfl, ?_, ?_⟩, ends⟩
            · rw [stream]
              simp only [List.append_assoc]
            · intro segment member
              rcases List.mem_cons.mp member with rfl | later
              · exact nonempty
              · exact others segment later
            · rw [Option.map_some, batches]
              rfl

theorem pipeline_steady (setup : Setup World) (policy : Policy) (executor : FullExecutor)
    (world : World) (calls : List Call) (steady : Steady fastLane (ingested calls)) :
    Linked setup.mode (sealedBatches setup (some ⟨.new policy executor, world⟩) calls) ∧
      ∀ final, calls.foldl (callStep setup) (some ⟨.new policy executor, world⟩) = some final →
        final.engine.pending = [] →
        OneEnd setup.mode fastLane (ingested calls)
          (sealedBatches setup (some ⟨.new policy executor, world⟩) calls) := by
  rcases pipeline_cutting setup calls [] ⟨.new policy executor, world⟩ ⟨rfl, rfl⟩ with
    ⟨taken, left, stream, cut, ends⟩
  rw [List.nil_append] at stream
  constructor
  · rw [stream] at steady
    exact linked_of_steady steady cut
  · intro final reached done
    have queued := ends final reached
    have nothing : left = [] := by
      rw [← priority_first_eq_nil_iff, ← done, Engine.pending, queued.lane, queued.queue]
      rfl
    rw [nothing, List.append_nil] at stream
    rw [← stream] at cut
    intro others accounts otherAccounts otherCut ended otherEnded
    exact ((steady_iff setup.mode fastLane (ingested calls)).mp steady).2 _ _ _ _ cut otherCut
      ended otherEnded

end PipelineBatches

/-- State continuity, over every stream and every run. The batches of a stream are
linked and have one end, however it is cut, exactly when the stream is steady; and
then the traces of a validator and of a pipeline are continuous in every state of
every run, and what they end with does not depend on the seals. -/
theorem state_continuity_iff_steady {Policy World : Type} [PolicyEngine Policy] [Clock World] :
    (∀ mode fast stream, Steady fast stream ↔
      (∀ batches, Cutting fast stream batches → Linked mode batches) ∧
      ∀ batches, Cutting fast stream batches → OneEnd mode fast stream batches) ∧
    (∀ (validator : ValidatorNode.Validator Policy) maxCuPerTx actions count,
      validator.executor = .new maxCuPerTx →
      Steady oneLane
        (stateAfter (ValidatorNode.step validator) .init actions count).submitted →
      Continuous validator.hashBytes validator.mode validator.executor
          ((stateAfter (ValidatorNode.step validator) .init actions count).tasks.map
            ValidatorNode.Task.transactions) ∧
        ((stateAfter (ValidatorNode.step validator) .init actions count).state.pendingTxs = [] →
          OneEnd validator.mode oneLane
            (stateAfter (ValidatorNode.step validator) .init actions count).submitted
            ((stateAfter (ValidatorNode.step validator) .init actions count).tasks.map
              ValidatorNode.Task.transactions))) ∧
    ∀ (setup : PipelineEngine.Setup World) (policy : Policy) maxCuPerTx world calls,
      Steady PipelineEngine.fastLane (ingested calls) →
      Continuous setup.hashBytes setup.mode (.new maxCuPerTx)
          (sealedBatches setup (some ⟨.new policy (.new maxCuPerTx), world⟩) calls) ∧
        ∀ final, calls.foldl (PipelineRuns.callStep setup)
            (some ⟨.new policy (.new maxCuPerTx), world⟩) = some final →
          final.engine.pending = [] →
          OneEnd setup.mode PipelineEngine.fastLane (ingested calls)
            (sealedBatches setup (some ⟨.new policy (.new maxCuPerTx), world⟩) calls) := by
  refine ⟨?_, ?_, ?_⟩
  · intro mode fast stream
    rw [steady_iff]
    apply and_congr_right
    intro _
    constructor
    · intro independent batches cut others accounts otherAccounts otherCut ends otherEnds
      exact independent batches others accounts otherAccounts cut otherCut ends otherEnds
    · intro oneEnd batches others accounts otherAccounts cut otherCut ends otherEnds
      exact oneEnd batches cut others accounts otherAccounts otherCut ends otherEnds
  · intro validator maxCuPerTx actions count built steady
    have sealing := ValidatorRuns.run_sealing validator actions count
    have linked := validator_batches_linked validator.mode sealing steady
    rw [built]
    exact ⟨continuous_of_linked _ _ linked, validator_one_end sealing steady⟩
  · intro setup policy maxCuPerTx world calls steady
    rcases pipeline_steady setup policy (.new maxCuPerTx) world calls steady with ⟨linked, oneEnd⟩
    exact ⟨continuous_of_linked _ _ linked, oneEnd⟩

section Samples

open CatalystSvm.ValidatorNode CatalystSvm.ValidatorRuns

def samplePayment (sender : String) : SubmitTxParams :=
  { sampleParams sender with
    instructionData := [0, 100, 0, 0, 0, 0, 0, 0, 0, 1, 0, 0, 0, 0, 0, 0, 0] }

def sealedApart : List Action :=
  [.submit (samplePayment "alice") 0, .checkAndSeal 0, .submit (sampleParams "alice") 0,
    .checkAndSeal 0]

def sealedTogether : List Action :=
  [.submit (samplePayment "alice") 0, .submit (sampleParams "alice") 0, .checkAndSeal 0]

def sampleBatches (actions : List Action) : List (List Transaction) :=
  (stateAfter (step eagerValidator) .init actions actions.length).tasks.map Task.transactions

theorem ends_with_balance {actions : List Action} {balance : UInt64}
    (ends : ((sampleBatches actions).getLast?.bind (finalAccounts eagerValidator.mode)).map
      (fun accounts => accounts["alice"]?) = some (some balance)) :
    ∃ accounts, EndsWith eagerValidator.mode (sampleBatches actions) accounts ∧
      accounts["alice"]? = some balance := by
  rcases Option.map_eq_some_iff.mp ends with ⟨accounts, reached, value⟩
  rcases Option.bind_eq_some_iff.mp reached with ⟨last, atEnd, ended⟩
  exact ⟨accounts, ⟨last, atEnd, ended⟩, value⟩

/-- The second batch starts without the payment of the first. Sealed together with it,
the same transactions end with the payment made. -/
theorem payment_is_forgotten :
    (stateAfter (step eagerValidator) .init sealedApart 4).submitted =
      (stateAfter (step eagerValidator) .init sealedTogether 3).submitted ∧
    ¬Continuous eagerValidator.hashBytes eagerValidator.mode eagerValidator.executor
      (sampleBatches sealedApart) ∧
    (∃ accounts, EndsWith eagerValidator.mode (sampleBatches sealedApart) accounts ∧
      accounts["alice"]? = some 1000000) ∧
    ∃ accounts, EndsWith eagerValidator.mode (sampleBatches sealedTogether) accounts ∧
      accounts["alice"]? = some 999900 := by
  refine ⟨by decide +kernel, ?_, ends_with_balance (by decide +kernel),
    ends_with_balance (by decide +kernel)⟩
  intro continuous
  have gap : ((sampleBatches sealedApart)[0]?.bind fun left =>
      (sampleBatches sealedApart)[1]?.bind fun right =>
        (eagerValidator.executor.executeWithTransactions eagerValidator.hashBytes
          eagerValidator.mode (Batch.new "batch_000001" 0) left).bind fun leftTrace =>
            (eagerValidator.executor.executeWithTransactions eagerValidator.hashBytes
              eagerValidator.mode (Batch.new "batch_000002" 0) right).map fun rightTrace =>
                decide (rightTrace.stateRootPre = leftTrace.stateRootPost)) = some false := by
    decide +kernel
  simp only [Option.bind_eq_some_iff, Option.map_eq_some_iff] at gap
  rcases gap with ⟨left, leftFound, right, rightFound, leftTrace, leftExecuted, rightTrace,
    rightExecuted, different⟩
  exact absurd (continuous 0 left right leftFound rightFound _ _ _ _ leftExecuted rightExecuted)
    (of_decide_eq_false different)

theorem noops_are_continuous :
    Continuous eagerValidator.hashBytes eagerValidator.mode eagerValidator.executor
      ((stateAfter (step eagerValidator) .init
        [.submit (sampleParams "alice") 0, .checkAndSeal 0, .submit (sampleParams "alice") 0,
          .checkAndSeal 0] 4).tasks.map Task.transactions) := by
  refine ((@state_continuity_iff_steady FixedCountPolicy VirtualClock _ _).2.1 eagerValidator
    200000 _ 4 rfl ?_).1
  constructor
  case sender =>
    refine ⟨"alice", ?_⟩
    decide +kernel
  case inert =>
    intro tx member
    have noop : ∀ other ∈ (stateAfter (step eagerValidator) .init
        [.submit (sampleParams "alice") 0, .checkAndSeal 0, .submit (sampleParams "alice") 0,
          .checkAndSeal 0] 4).submitted.dropLast, other.instructionData = [3] := by
      decide +kernel
    rw [noop tx member]
    trivial
  case overtaken =>
    intro earlier last _ lane
    cases lane

end Samples

end CatalystSvm.ContinuityRuns
