import CatalystSvm.Library.Runs
import CatalystSvm.Library.Segments
import CatalystSvm.PipelineEngine

/-!
# Runs of the pipeline

A call either leaves everything queued or seals all of it at once. The first
section says so for every method, the rest follows the stream of ingested
transactions through a run.
-/

namespace CatalystSvm.PipelineRuns

open CatalystSvm.CommonTypes CatalystSvm.MachineArithmetic CatalystSvm.BatchPolicy
open CatalystSvm.CommonMetrics CatalystSvm.IssuedIds CatalystSvm.ExecutionEngine
open CatalystSvm.PipelineEngine CatalystSvm.Library.Runs CatalystSvm.Library.Segments

set_option autoImplicit false

section Queues

variable {Policy World : Type} [Clock World]

theorem pending_empty_iff (engine : Engine Policy) :
    (engine.queue.isEmpty && engine.priorityLane.isEmpty) = true ↔ engine.pending = [] := by
  simp [Engine.pending, and_comm]

theorem pending_length (engine : Engine Policy) :
    engine.queue.length + engine.priorityLane.length = engine.pending.length := by
  rw [Engine.pending, List.length_append, Nat.add_comm]

theorem enqueue_pending_length (tx : Transaction) (machine : Machine Policy World) :
    (enqueue tx machine).engine.pending.length = machine.engine.pending.length + 1 := by
  unfold enqueue
  split_ifs <;> simp [Engine.pending] <;> omega

/-- The oldest arrival moves only when a transaction meets two empty queues. -/
def oldestAfter (tx : Transaction) (engine : Engine Policy) : UInt64 :=
  if engine.queue.isEmpty && engine.priorityLane.isEmpty then tx.arrivalTs
  else engine.oldestArrival

theorem enqueue_engine (tx : Transaction) (machine : Machine Policy World) :
    (enqueue tx machine).engine =
      { machine.engine with
        oldestArrival := oldestAfter tx machine.engine
        priorityLane := machine.engine.priorityLane ++ [tx].filter fastLane
        queue := machine.engine.queue ++ [tx].filter fun tx => !fastLane tx } := by
  cases lane : fastLane tx <;> simp [enqueue, lane, oldestAfter]

theorem mem_enqueue_pending {tx other : Transaction} {machine : Machine Policy World} :
    other ∈ (enqueue tx machine).engine.pending ↔
      other = tx ∨ other ∈ machine.engine.pending := by
  rw [enqueue_engine]
  simp only [Engine.pending, List.mem_append, List.mem_filter, List.mem_singleton]
  cases lane : fastLane other <;> grind

end Queues

section Specifications

variable {Policy World : Type} [PolicyEngine Policy] [Clock World] {setup : Setup World}

def drain (engine : Engine Policy) (counter : UInt64) : Engine Policy :=
  { engine with priorityLane := [], queue := [], batchCounter := counter }

def nextBatch (machine : Machine Policy World) (counter : UInt64) : Batch :=
  sealedBatch (formatBatchId counter) (Clock.nowMs machine.world).1 machine.engine.pending

/-- The counter and the trace with which a seal reaches the prover. -/
def Executes (setup : Setup World) (machine : Machine Policy World) (counter : UInt64)
    (trace : ExecutionTrace) : Prop :=
  addU64 setup.mode machine.engine.batchCounter 1 = some counter ∧
    machine.engine.executor.executeWithTransactions setup.hashBytes setup.mode
      (nextBatch machine counter) machine.engine.pending = some trace

structure Accepts (setup : Setup World) (machine : Machine Policy World) (trace : ExecutionTrace)
    (proof : Proof) (verification : VerificationResult) (proved verified : World) : Prop where
  prove : setup.prove trace machine.engine.pending (Clock.nowMs machine.world).2 =
    (.ok proof, proved)
  verify : setup.verify proof trace proved = (.ok verification, verified)

def recordedEntry (machine : Machine Policy World) (counter : UInt64) (trace : ExecutionTrace)
    (proof : Proof) (verification : VerificationResult) (verified : World) : RecordedBatch where
  batch := nextBatch machine counter
  transactions := machine.engine.pending
  trace := trace
  verifiedAt := (Clock.nowMs verified).1
  metrics := batchMetrics machine.engine.policy (nextBatch machine counter)
    machine.engine.pending trace proof verification (Clock.nowMs verified).1

def record (engine : Engine Policy) (counter : UInt64) (entry : RecordedBatch) : Engine Policy :=
  { drain engine counter with
    metrics := engine.metrics.record entry.metrics
    recorded := engine.recorded ++ [entry]
    lastSealTime := entry.verifiedAt }

/-- Everything `seal_and_process` can do. -/
inductive SealSpec (setup : Setup World) (machine : Machine Policy World) :
    Option (Outcome Policy World) → Prop
  | idle (empty : machine.engine.pending = []) :
      SealSpec setup machine
        (some (.ok (), ⟨machine.engine, (Clock.nowMs machine.world).2⟩))
  | panicked (filled : machine.engine.pending ≠ [])
      (stopped : ∀ counter trace, ¬Executes setup machine counter trace) :
      SealSpec setup machine none
  | failed (filled : machine.engine.pending ≠ []) {counter : UInt64} {trace : ExecutionTrace}
      (executed : Executes setup machine counter trace)
      (rejected : ∀ proof verification proved verified,
        ¬Accepts setup machine trace proof verification proved verified)
      (error : ExecError) (world : World) :
      SealSpec setup machine (some (.error error, ⟨drain machine.engine counter, world⟩))
  | recorded (filled : machine.engine.pending ≠ []) {counter : UInt64} {trace : ExecutionTrace}
      (executed : Executes setup machine counter trace) {proof : Proof}
      {verification : VerificationResult} {proved verified : World}
      (accepted : Accepts setup machine trace proof verification proved verified) :
      SealSpec setup machine (some (.ok (),
        ⟨record machine.engine counter
          (recordedEntry machine counter trace proof verification verified),
          (Clock.nowMs verified).2⟩))

theorem prove_and_verify_spec {machine : Machine Policy World} {counter : UInt64}
    {trace : ExecutionTrace} (filled : machine.engine.pending ≠ [])
    (executed : Executes setup machine counter trace) :
    SealSpec setup machine (some (proveAndVerify setup (drain machine.engine counter)
      (nextBatch machine counter) machine.engine.pending trace
      (Clock.nowMs machine.world).2)) := by
  cases proving : setup.prove trace machine.engine.pending (Clock.nowMs machine.world).2 with
  | mk proveResult proved =>
      cases proveResult with
      | error error =>
          simp only [proveAndVerify, proving]
          apply SealSpec.failed filled executed
          intro proof verification otherProved verified accepted
          cases proving.symm.trans accepted.prove
      | ok proof =>
          cases verifying : setup.verify proof trace proved with
          | mk verifyResult verified =>
              cases verifyResult with
              | error error =>
                  simp only [proveAndVerify, proving, verifying]
                  apply SealSpec.failed filled executed
                  intro otherProof verification otherProved otherVerified accepted
                  cases proving.symm.trans accepted.prove
                  cases verifying.symm.trans accepted.verify
              | ok verification =>
                  simp only [proveAndVerify, proving, verifying]
                  exact .recorded filled executed ⟨proving, verifying⟩

theorem seal_spec (setup : Setup World) (machine : Machine Policy World) :
    SealSpec setup machine (sealAndProcess setup machine) := by
  rcases machine with ⟨engine, world⟩
  by_cases empty : engine.pending = []
  · have lane : engine.priorityLane = [] := (List.append_eq_nil_iff.mp empty).1
    have queue : engine.queue = [] := (List.append_eq_nil_iff.mp empty).2
    have result : sealAndProcess setup ⟨engine, world⟩ =
        some (.ok (), ⟨engine, (Clock.nowMs world).2⟩) := by
      rcases engine with ⟨policy, executor, queueList, laneList, counter, oldest, last, metrics, past⟩
      simp only at lane queue
      subst lane
      subst queue
      simp [sealAndProcess]
    rw [result]
    exact .idle empty
  · have notEmpty : (engine.priorityLane ++ engine.queue).isEmpty = false := by
      simpa [Engine.pending] using empty
    simp only [sealAndProcess, notEmpty, Bool.false_eq_true, if_false, bind]
    cases added : addU64 setup.mode engine.batchCounter 1 with
    | none =>
        apply SealSpec.panicked empty
        intro counter trace executed
        rw [Executes, added] at executed
        cases executed.1
    | some counter =>
        simp only [Option.bind_some]
        cases traced : engine.executor.executeWithTransactions setup.hashBytes setup.mode
            (sealedBatch (formatBatchId counter) (Clock.nowMs world).1
              (engine.priorityLane ++ engine.queue)) (engine.priorityLane ++ engine.queue) with
        | none =>
            apply SealSpec.panicked empty
            intro other trace executed
            rw [Executes, added] at executed
            cases executed.1
            cases traced.symm.trans executed.2
        | some trace =>
            simp only [Option.bind_some]
            exact prove_and_verify_spec empty ⟨added, traced⟩

omit [PolicyEngine Policy] in
theorem executes_unique {machine : Machine Policy World} {left right : UInt64}
    {leftTrace rightTrace : ExecutionTrace} (first : Executes setup machine left leftTrace)
    (second : Executes setup machine right rightTrace) :
    left = right ∧ leftTrace = rightTrace := by
  rcases first with ⟨leftCounter, leftExecuted⟩
  rcases second with ⟨rightCounter, rightExecuted⟩
  cases leftCounter.symm.trans rightCounter
  cases leftExecuted.symm.trans rightExecuted
  exact ⟨rfl, rfl⟩

theorem seal_executed {machine : Machine Policy World} {counter : UInt64} {trace : ExecutionTrace}
    (filled : machine.engine.pending ≠ []) (executed : Executes setup machine counter trace) :
    (∃ proof verification proved verified,
      Accepts setup machine trace proof verification proved verified ∧
      sealAndProcess setup machine = some (.ok (),
        ⟨record machine.engine counter
          (recordedEntry machine counter trace proof verification verified),
          (Clock.nowMs verified).2⟩)) ∨
    ((∀ proof verification proved verified,
      ¬Accepts setup machine trace proof verification proved verified) ∧
      ∃ error world, sealAndProcess setup machine =
        some (.error error, ⟨drain machine.engine counter, world⟩)) := by
  have spec := seal_spec setup machine
  cases sealed : sealAndProcess setup machine with
  | none =>
      rw [sealed] at spec
      cases spec with
      | panicked _ stopped => exact absurd executed (stopped counter trace)
  | some outcome =>
      rw [sealed] at spec
      cases spec with
      | idle empty => exact absurd empty filled
      | failed _ ran rejected error world =>
          rcases executes_unique executed ran with ⟨sameCounter, sameTrace⟩
          subst sameCounter
          subst sameTrace
          exact .inr ⟨rejected, error, world, rfl⟩
      | recorded _ ran accepted =>
          rcases executes_unique executed ran with ⟨sameCounter, sameTrace⟩
          subst sameCounter
          subst sameTrace
          exact .inl ⟨_, _, _, _, accepted, rfl⟩

theorem seal_recorded {machine : Machine Policy World} {counter : UInt64} {trace : ExecutionTrace}
    {proof : Proof} {verification : VerificationResult} {proved verified : World}
    (filled : machine.engine.pending ≠ []) (executed : Executes setup machine counter trace)
    (accepted : Accepts setup machine trace proof verification proved verified) :
    sealAndProcess setup machine = some (.ok (),
      ⟨record machine.engine counter
        (recordedEntry machine counter trace proof verification verified),
        (Clock.nowMs verified).2⟩) := by
  rcases seal_executed filled executed with
    ⟨otherProof, otherVerification, otherProved, otherVerified, other, sealed⟩ | ⟨rejected, _⟩
  · cases accepted.prove.symm.trans other.prove
    cases accepted.verify.symm.trans other.verify
    exact sealed
  · exact absurd accepted (rejected proof verification proved verified)

theorem sealed_empty {machine after : Machine Policy World}
    (sealed : sealAndProcess setup machine = some (.ok (), after)) :
    after.engine.pending = [] := by
  have spec := seal_spec setup machine
  rw [sealed] at spec
  cases spec with
  | idle empty => exact empty
  | recorded filled executed accepted => rfl

/-- The loop of `flush` ends in its second round at the latest. -/
theorem flush_eq (setup : Setup World) (fuel : Nat) (machine : Machine Policy World) :
    flush setup (fuel + 2) machine =
      some (if machine.engine.pending = [] then some (.ok (), machine)
        else sealAndProcess setup machine) := by
  have returns : ∀ (rounds : Nat) (empty : Machine Policy World), empty.engine.pending = [] →
      flush setup (rounds + 1) empty = some (some (.ok (), empty)) := by
    intro rounds other empty
    rw [flush, if_pos ((pending_empty_iff _).mpr empty)]
  by_cases empty : machine.engine.pending = []
  · rw [if_pos empty]
    exact returns (fuel + 1) machine empty
  · have busy : ¬(machine.engine.queue.isEmpty && machine.engine.priorityLane.isEmpty) = true :=
      fun both => empty ((pending_empty_iff _).mp both)
    rw [if_neg empty, flush, if_neg busy]
    cases sealed : sealAndProcess setup machine with
    | none => rfl
    | some outcome =>
        rcases outcome with ⟨result, after⟩
        cases result with
        | error error => rfl
        | ok done => exact returns fuel after (sealed_empty sealed)

/-! ## Calls -/

inductive Call where
  | ingest (tx : Transaction)
  | flush

def decision (engine : Engine Policy) (now : UInt64) : Bool :=
  PolicyEngine.shouldSeal engine.policy engine.pending.length
    (saturatingSub now engine.oldestArrival)
    (arrivalRate engine.pending.length now engine.lastSealTime)

def sealPoint : Call → Machine Policy World → Option (Machine Policy World)
  | .ingest tx, machine =>
      let (now, world) := Clock.nowMs (enqueue tx machine).world
      if decision (enqueue tx machine).engine now then some ⟨(enqueue tx machine).engine, world⟩
      else none
  | .flush, machine => if machine.engine.pending = [] then none else some machine

def resting : Call → Machine Policy World → Machine Policy World
  | .ingest tx, machine =>
      ⟨(enqueue tx machine).engine, (Clock.nowMs (enqueue tx machine).world).2⟩
  | .flush, machine => machine

def perform (setup : Setup World) : Call → Machine Policy World → Option (Outcome Policy World)
  | .ingest tx, machine => ingest setup tx machine
  | .flush, machine => (flush setup 2 machine).getD none

theorem perform_eq (setup : Setup World) (call : Call) (machine : Machine Policy World) :
    perform setup call machine =
      match sealPoint call machine with
      | some point => sealAndProcess setup point
      | none => some (.ok (), resting call machine) := by
  cases call with
  | ingest tx =>
      have length := enqueue_pending_length tx machine
      have busy : (enqueue tx machine).engine.pending.length ≠ 0 := by omega
      simp only [perform, ingest, trySeal, sealPoint, pending_length, if_neg busy]
      change (if decision (enqueue tx machine).engine
        (Clock.nowMs (enqueue tx machine).world).1 = true then _ else _) = _
      cases decision (enqueue tx machine).engine (Clock.nowMs (enqueue tx machine).world).1 <;> rfl
  | flush =>
      simp only [perform, sealPoint]
      rw [flush_eq setup 0 machine]
      split_ifs <;> rfl

theorem perform_cases (setup : Setup World) (call : Call) (machine : Machine Policy World) :
    (sealPoint call machine = none ∧
      perform setup call machine = some (.ok (), resting call machine)) ∨
    ∃ point, sealPoint call machine = some point ∧
      point.engine = (resting call machine).engine ∧ point.engine.pending ≠ [] ∧
      perform setup call machine = sealAndProcess setup point := by
  rw [perform_eq]
  cases found : sealPoint call machine with
  | none => exact .inl ⟨rfl, rfl⟩
  | some point =>
      refine .inr ⟨point, rfl, ?_⟩
      cases call with
      | ingest tx =>
          simp only [sealPoint] at found
          split_ifs at found
          cases found
          have length := enqueue_pending_length tx machine
          have filled : (enqueue tx machine).engine.pending ≠ [] := by
            intro empty
            rw [empty, List.length_nil] at length
            omega
          exact ⟨rfl, filled, rfl⟩
      | flush =>
          simp only [sealPoint] at found
          split_ifs at found with empty
          cases found
          exact ⟨rfl, empty, rfl⟩

structure Framed (before after : Engine Policy) : Prop where
  policy : after.policy = before.policy
  executor : after.executor = before.executor
  recorded : after.recorded = before.recorded
  metrics : after.metrics = before.metrics

omit [PolicyEngine Policy] in
theorem resting_frame (call : Call) (machine : Machine Policy World) :
    Framed machine.engine (resting call machine).engine := by
  cases call with
  | ingest tx =>
      change Framed machine.engine (enqueue tx machine).engine
      rw [enqueue_engine]
      exact ⟨rfl, rfl, rfl, rfl⟩
  | flush => exact ⟨rfl, rfl, rfl, rfl⟩

theorem perform_some {setup : Setup World} {machine after : Machine Policy World} {call : Call}
    {result : Except ExecError Unit}
    (returned : perform setup call machine = some (result, after)) :
    (result = .ok () ∧ after = resting call machine) ∨
    ∃ point, sealPoint call machine = some point ∧
      point.engine = (resting call machine).engine ∧ point.engine.pending ≠ [] ∧
      SealSpec setup point (some (result, after)) := by
  rcases perform_cases setup call machine with ⟨_, rests⟩ | ⟨point, found, same, filled, seals⟩
  · cases rests.symm.trans returned
    exact .inl ⟨rfl, rfl⟩
  · have spec := seal_spec setup point
    rw [← seals, returned] at spec
    exact .inr ⟨point, found, same, filled, spec⟩

theorem perform_keeps {setup : Setup World} {machine after : Machine Policy World} {call : Call}
    {result : Except ExecError Unit}
    (returned : perform setup call machine = some (result, after)) :
    after.engine.policy = machine.engine.policy ∧
      after.engine.executor = machine.engine.executor := by
  have frame := resting_frame call machine
  rw [← frame.policy, ← frame.executor]
  rcases perform_some returned with ⟨_, rests⟩ | ⟨point, _, same, _, spec⟩
  · rw [rests]
    exact ⟨rfl, rfl⟩
  · rw [← same]
    cases spec with
    | idle empty => exact ⟨rfl, rfl⟩
    | failed filled executed rejected => exact ⟨rfl, rfl⟩
    | recorded filled executed accepted => exact ⟨rfl, rfl⟩

/-- One call of a client that goes on after errors. Nothing follows a panic. -/
def callStep (setup : Setup World) :
    Option (Machine Policy World) → Call → Option (Machine Policy World)
  | none, _ => none
  | some machine, call => (perform setup call machine).map Prod.snd

theorem once_running_of_each_step {setup : Setup World} {machine : Machine Policy World}
    {calls : List Call} {Holds : Machine Policy World → Prop}
    {Allowed : Machine Policy World → Call → Prop} (initially : Holds machine)
    (kept : ∀ machine call result after, Holds machine → Allowed machine call →
      perform setup call machine = some (result, after) → Holds after)
    (allowed : EachStep (callStep setup) (some machine) calls (WhileRunning Allowed)) :
    Always (callStep setup) (some machine) calls (OnceRunning Holds) := by
  have starts : OnceRunning Holds (some machine) := initially
  apply always_of_each_step starts _ allowed
  intro state call before permitted
  cases state with
  | none => trivial
  | some current =>
      cases performed : perform setup call current with
      | none => simp [callStep, performed, OnceRunning]
      | some outcome =>
          rw [callStep, performed]
          exact kept current call outcome.1 outcome.2 before permitted performed

theorem once_running_always {setup : Setup World} {machine : Machine Policy World}
    {Holds : Machine Policy World → Prop} (initially : Holds machine)
    (kept : ∀ machine call result after, Holds machine →
      perform setup call machine = some (result, after) → Holds after) (calls : List Call) :
    Always (callStep setup) (some machine) calls (OnceRunning Holds) := by
  have anything : EachStep (callStep setup) (some machine) calls (WhileRunning fun _ _ => True) := by
    intro count call _
    cases stateAfter (callStep setup) (some machine) calls count <;> trivial
  apply once_running_of_each_step initially _ anything
  intro current call result after holds _ returned
  exact kept current call result after holds returned

end Specifications

/-! ## The ingested stream -/

def priorityFirst (transactions : List Transaction) : List Transaction :=
  transactions.filter fastLane ++ transactions.filter fun tx => !fastLane tx

theorem priority_first_perm (transactions : List Transaction) :
    (priorityFirst transactions).Perm transactions :=
  List.filter_append_perm fastLane transactions

theorem priority_first_eq_nil_iff (transactions : List Transaction) :
    priorityFirst transactions = [] ↔ transactions = [] := by
  constructor
  · intro empty
    have none := priority_first_perm transactions
    rw [empty] at none
    exact none.nil_eq.symm
  · intro empty
    rw [empty]
    rfl

structure Consistent {World : Type} (setup : Setup World) (executor : FullExecutor)
    (entry : RecordedBatch) : Prop where
  batchId : entry.metrics.batchId = entry.batch.batchId
  batchSize : entry.metrics.batchSize = entry.transactions.length
  trace : executor.executeWithTransactions setup.hashBytes setup.mode entry.batch
    entry.transactions = some entry.trace

/-- The stream so far: the segments of the recorded batches, then what is queued. -/
structure Partitioned {Policy World : Type} (setup : Setup World)
    (ingested : List Transaction) (segments : List (List Transaction))
    (rest : List Transaction) (engine : Engine Policy) : Prop where
  stream : ingested = segments.flatten ++ rest
  filled : ∀ segment ∈ segments, segment ≠ []
  transactions : engine.recorded.map RecordedBatch.transactions = segments.map priorityFirst
  ids : engine.recorded.map (fun entry => entry.batch.batchId) =
    issued formatBatchId segments.length
  counter : engine.batchCounter = UInt64.ofNat segments.length
  metrics : engine.metrics.batchMetrics = engine.recorded.map RecordedBatch.metrics
  entries : ∀ entry ∈ engine.recorded, Consistent setup engine.executor entry
  lane : engine.priorityLane = rest.filter fastLane
  queue : engine.queue = rest.filter fun tx => !fastLane tx

theorem partitioned_pending {Policy World : Type} {setup : Setup World}
    {ingested rest : List Transaction} {segments : List (List Transaction)} {engine : Engine Policy}
    (part : Partitioned setup ingested segments rest engine) :
    engine.pending = priorityFirst rest := by
  rw [Engine.pending, part.lane, part.queue]
  rfl

theorem new_partitioned {Policy World : Type} (setup : Setup World) (policy : Policy)
    (executor : FullExecutor) : Partitioned setup [] [] [] (Engine.new policy executor) where
  stream := rfl
  filled := by simp
  transactions := rfl
  ids := rfl
  counter := rfl
  metrics := rfl
  entries := by simp [Engine.new]
  lane := rfl
  queue := rfl

section Stream

variable {Policy World : Type} [Clock World] {setup : Setup World}
variable {ingested rest : List Transaction} {segments : List (List Transaction)}
variable {machine after : Machine Policy World}

theorem enqueue_partitioned (tx : Transaction)
    (part : Partitioned setup ingested segments rest machine.engine) :
    Partitioned setup (ingested ++ [tx]) segments (rest ++ [tx])
      (enqueue tx machine).engine := by
  rw [enqueue_engine]
  constructor
  case stream => rw [part.stream, List.append_assoc]
  case lane => rw [part.lane, List.filter_append]
  case queue => rw [part.queue, List.filter_append]
  case filled => exact part.filled
  case transactions => exact part.transactions
  case ids => exact part.ids
  case counter => exact part.counter
  case metrics => exact part.metrics
  case entries => exact part.entries

theorem record_partitioned [PolicyEngine Policy] {counter : UInt64} {trace : ExecutionTrace} {proof : Proof}
    {verification : VerificationResult} {verified : World}
    (part : Partitioned setup ingested segments rest machine.engine)
    (filled : machine.engine.pending ≠ []) (executed : Executes setup machine counter trace) :
    Partitioned setup ingested (segments ++ [rest]) []
      (record machine.engine counter
        (recordedEntry machine counter trace proof verification verified)) := by
  have pending := partitioned_pending part
  have counted := add_u64_one part.counter executed.1
  constructor
  case stream => simp [part.stream]
  case filled =>
    intro segment member
    rcases List.mem_append.mp member with old | new
    · exact part.filled segment old
    · rw [List.mem_singleton] at new
      rw [new]
      rwa [pending, Ne, priority_first_eq_nil_iff] at filled
  case transactions =>
    simp only [record, drain, List.map_append, List.map_singleton, part.transactions, pending,
      recordedEntry]
  case ids =>
    rw [List.length_append, List.length_singleton, issued_succ, ← counted]
    simp only [record, drain, List.map_append, List.map_singleton, part.ids]
    rfl
  case counter =>
    rw [List.length_append]
    exact counted
  case metrics =>
    simp only [record, drain, MetricsAggregator.record, List.map_append, List.map_singleton,
      part.metrics]
  case entries =>
    intro entry member
    rcases List.mem_append.mp member with old | new
    · exact part.entries entry old
    · rw [List.mem_singleton] at new
      rw [new]
      exact ⟨rfl, rfl, executed.2⟩
  case lane => rfl
  case queue => rfl

end Stream

section Calls

variable {Policy World : Type} [PolicyEngine Policy] [Clock World] {setup : Setup World}
variable {ingested rest : List Transaction} {segments : List (List Transaction)}
variable {machine after : Machine Policy World}

theorem seal_partitioned (sealed : sealAndProcess setup machine = some (.ok (), after))
    (part : Partitioned setup ingested segments rest machine.engine)
    (filled : machine.engine.pending ≠ []) :
    after.engine.policy = machine.engine.policy ∧
      Partitioned setup ingested (segments ++ [rest]) [] after.engine := by
  have spec := seal_spec setup machine
  rw [sealed] at spec
  cases spec with
  | idle empty => exact absurd empty filled
  | recorded _ executed accepted => exact ⟨rfl, record_partitioned part filled executed⟩

/-- An ingest that returns `Ok` closes a segment exactly when the policy says so. -/
theorem ingest_partitioned {tx : Transaction}
    (part : Partitioned setup ingested segments rest machine.engine)
    (returned : perform setup (.ingest tx) machine = some (.ok (), after)) :
    after.engine.policy = machine.engine.policy ∧
      ∃ oldestWait rate,
        (PolicyEngine.shouldSeal machine.engine.policy (rest.length + 1) oldestWait rate = false ∧
          Partitioned setup (ingested ++ [tx]) segments (rest ++ [tx]) after.engine) ∨
        (PolicyEngine.shouldSeal machine.engine.policy (rest.length + 1) oldestWait rate = true ∧
          Partitioned setup (ingested ++ [tx]) (segments ++ [rest ++ [tx]]) [] after.engine) := by
  have queued := enqueue_partitioned tx part
  have policy : (enqueue tx machine).engine.policy = machine.engine.policy := by
    rw [enqueue_engine]
  have length : (enqueue tx machine).engine.pending.length = rest.length + 1 := by
    rw [enqueue_pending_length, partitioned_pending part, (priority_first_perm rest).length_eq]
  have filled : (enqueue tx machine).engine.pending ≠ [] := by
    rw [← List.length_pos_iff, length]
    exact Nat.succ_pos _
  rw [perform_eq] at returned
  cases decided : decision (enqueue tx machine).engine
      (Clock.nowMs (enqueue tx machine).world).1 with
  | false =>
      simp only [sealPoint, decided, Bool.false_eq_true, if_false, Option.some.injEq,
        Prod.mk.injEq, true_and] at returned
      subst returned
      rw [decision, policy, length] at decided
      exact ⟨policy, _, _, .inl ⟨decided, queued⟩⟩
  | true =>
      simp only [sealPoint, decided, if_true] at returned
      rcases seal_partitioned returned queued filled with ⟨samePolicy, sealed⟩
      rw [decision, policy, length] at decided
      exact ⟨samePolicy.trans policy, _, _, .inr ⟨decided, sealed⟩⟩

theorem flush_partitioned (part : Partitioned setup ingested segments rest machine.engine)
    (returned : perform setup .flush machine = some (.ok (), after)) :
    ∃ final, Partitioned setup ingested final [] after.engine ∧
      final = if rest = [] then segments else segments ++ [rest] := by
  have pending := partitioned_pending part
  rw [perform_eq] at returned
  simp only [sealPoint, pending, priority_first_eq_nil_iff] at returned
  by_cases empty : rest = []
  · simp only [empty, if_true, Option.some.injEq, Prod.mk.injEq, true_and] at returned
    subst returned
    rw [empty] at part
    exact ⟨segments, part, by rw [if_pos empty]⟩
  · simp only [empty, if_false] at returned
    have filled : machine.engine.pending ≠ [] := by
      rw [pending, Ne, priority_first_eq_nil_iff]
      exact empty
    exact ⟨segments ++ [rest], (seal_partitioned returned part filled).2, by rw [if_neg empty]⟩

end Calls

end CatalystSvm.PipelineRuns
