import CatalystSvm.PipelineBatches

/-!
# The lane of critical transactions

The priority-aware policy has a rule of its own for critical transactions, but the
engine asks a policy only through the trait, which passes on a total length, a wait
and a rate. What decides is the hybrid policy underneath.
-/

namespace CatalystSvm.CriticalLane

open CatalystSvm.CommonTypes CatalystSvm.MachineArithmetic CatalystSvm.BatchPolicy
open CatalystSvm.CommonMetrics CatalystSvm.ExecutionEngine CatalystSvm.PipelineEngine
open CatalystSvm.PipelineRuns CatalystSvm.PipelineBatches CatalystSvm.Library.Runs

set_option autoImplicit false

def criticalCount (transactions : List Transaction) : Nat :=
  transactions.countP fun tx => decide (tx.priority = .critical)

section Decision

variable {World : Type} [Clock World] {setup : Setup World} {config : PolicyConfig}
variable {machine : Machine DynPolicy World} {call : Call}

def CriticalBelow (setup : Setup World) (limit : Nat) (machine : Machine DynPolicy World)
    (call : Call) : Prop :=
  ∀ tx after, call = .ingest tx → perform setup call machine = some (.ok (), after) →
    criticalCount after.engine.pending < limit

/-- An ingest that fills the critical lane also finds a queue that is long enough or
has waited long enough for the hybrid policy. -/
def HybridSeals (config : PolicyConfig) (machine : Machine DynPolicy World) (call : Call) :
    Prop :=
  ∀ tx, call = .ingest tx →
    config.criticalThreshold ≤ criticalCount (enqueue tx machine).engine.pending →
    config.countThreshold ≤ (enqueue tx machine).engine.pending.length ∨
      config.timeThresholdMs ≤ saturatingSub (Clock.nowMs (enqueue tx machine).world).1
        (enqueue tx machine).engine.oldestArrival

theorem priority_decision_iff {engine : Engine DynPolicy}
    (policy : engine.policy = createPolicy "priority" config) (now : UInt64)
    (filled : 0 < engine.pending.length) :
    decision engine now = true ↔ config.countThreshold ≤ engine.pending.length ∨
      config.timeThresholdMs ≤ saturatingSub now engine.oldestArrival := by
  have hybrid := hybrid_seals_iff (HybridPolicy.mk config.countThreshold config.timeThresholdMs)
    engine.pending.length (saturatingSub now engine.oldestArrival)
    (arrivalRate engine.pending.length now engine.lastSealTime)
  simp only [filled, true_and] at hybrid
  rw [decision, policy, create_policy_priority]
  exact hybrid

theorem enqueue_decision_iff (policy : machine.engine.policy = createPolicy "priority" config)
    (tx : Transaction) :
    decision (enqueue tx machine).engine (Clock.nowMs (enqueue tx machine).world).1 = true ↔
      config.countThreshold ≤ (enqueue tx machine).engine.pending.length ∨
        config.timeThresholdMs ≤ saturatingSub (Clock.nowMs (enqueue tx machine).world).1
          (enqueue tx machine).engine.oldestArrival := by
  apply priority_decision_iff
  · rw [enqueue_engine]
    exact policy
  · rw [enqueue_pending_length]
    exact Nat.succ_pos _

theorem critical_below_iff (policy : machine.engine.policy = createPolicy "priority" config)
    (positive : 1 ≤ config.criticalThreshold) :
    CriticalBelow setup config.criticalThreshold machine call ↔ HybridSeals config machine call := by
  cases call with
  | flush =>
      constructor
      · intro _ tx ingesting
        cases ingesting
      · intro _ tx after ingesting
        cases ingesting
  | ingest tx =>
      have rule := enqueue_decision_iff policy tx
      have performed := perform_eq setup (.ingest tx) machine
      simp only [sealPoint] at performed
      constructor
      · intro below other ingesting full
        cases ingesting
        by_contra waits
        rw [← rule, Bool.not_eq_true] at waits
        simp only [waits, Bool.false_eq_true, if_false] at performed
        exact absurd (below tx _ rfl performed) (Nat.not_lt.mpr full)
      · intro seals other after ingesting returned
        cases ingesting
        cases decided : decision (enqueue tx machine).engine
            (Clock.nowMs (enqueue tx machine).world).1 with
        | true =>
            simp only [decided, if_true, returned] at performed
            rw [sealed_empty performed.symm]
            exact positive
        | false =>
            simp only [decided, Bool.false_eq_true, if_false, returned] at performed
            cases performed
            by_contra full
            rw [rule.mpr (seals tx rfl (Nat.not_lt.mp full))] at decided
            cases decided

end Decision

theorem same_policy {World : Type} [Clock World] (setup : Setup World) (executor : FullExecutor)
    (world : World) (config : PolicyConfig) (calls : List Call) :
    Always (callStep setup) (some ⟨.new (createPolicy "priority" config) executor, world⟩) calls
      (OnceRunning fun machine => machine.engine.policy = createPolicy "priority" config) := by
  have starts : (Machine.mk (Engine.new (createPolicy "priority" config) executor)
      world).engine.policy = createPolicy "priority" config := rfl
  apply once_running_always starts
  intro machine call result after policy returned
  rw [(perform_keeps returned).1]
  exact policy

/-! ## A lane that fills and waits -/

section Waiting

variable {World : Type} [Clock World] {setup : Setup World} {config : PolicyConfig}

/-- A critical transaction stamped with the last millisecond there is: no clock reads
later, so it never seems to have waited. -/
def lastArrival : Transaction :=
  { Transaction.new ⟨"tx"⟩ "sender" "program" with
    arrivalTs := UInt64.ofNat (2 ^ 64 - 1)
    priority := .critical }

theorem last_arrival_never_waits (now : UInt64) :
    saturatingSub now lastArrival.arrivalTs = 0 := by
  have last : lastArrival.arrivalTs.toNat = 2 ^ 64 - 1 := rfl
  have range := now.toNat_lt
  rw [← UInt64.toNat_inj, UInt64.toNat_zero]
  unfold saturatingSub
  split_ifs with covered
  · rw [UInt64.toNat_sub_of_le _ _ covered]
    omega
  · rfl

structure Waits (config : PolicyConfig) (count : Nat) (engine : Engine DynPolicy) : Prop where
  policy : engine.policy = createPolicy "priority" config
  lane : engine.priorityLane = List.replicate count lastArrival
  queue : engine.queue = []
  oldest : count = 0 ∨ engine.oldestArrival = lastArrival.arrivalTs

theorem waits_pending {count : Nat} {engine : Engine DynPolicy}
    (waits : Waits config count engine) : engine.pending = List.replicate count lastArrival := by
  rw [Engine.pending, waits.lane, waits.queue, List.append_nil]

theorem enqueue_waits {count : Nat} {machine : Machine DynPolicy World}
    (waits : Waits config count machine.engine) :
    Waits config (count + 1) (enqueue lastArrival machine).engine := by
  have engine := enqueue_engine lastArrival machine
  constructor
  case policy =>
    rw [engine]
    exact waits.policy
  case lane =>
    rw [engine, List.replicate_succ']
    exact congrArg (· ++ _) waits.lane
  case queue =>
    rw [engine]
    exact congrArg (· ++ _) waits.queue
  case oldest =>
    right
    rw [engine]
    change oldestAfter lastArrival machine.engine = _
    unfold oldestAfter
    split_ifs with empty
    · rfl
    · rcases waits.oldest with none | old
      · simp [waits.lane, waits.queue, none] at empty
      · exact old

theorem last_arrival_waits {count : Nat} {machine : Machine DynPolicy World}
    (waits : Waits config count machine.engine) (short : count + 1 < config.countThreshold)
    (timed : config.timeThresholdMs ≠ 0) :
    ¬(config.countThreshold ≤ (enqueue lastArrival machine).engine.pending.length ∨
      config.timeThresholdMs ≤ saturatingSub (Clock.nowMs (enqueue lastArrival machine).world).1
        (enqueue lastArrival machine).engine.oldestArrival) := by
  have queued := enqueue_waits waits
  have oldest : (enqueue lastArrival machine).engine.oldestArrival = lastArrival.arrivalTs := by
    rcases queued.oldest with none | old
    · cases none
    · exact old
  rw [waits_pending queued, List.length_replicate, oldest, last_arrival_never_waits]
  intro seals
  rcases seals with long | old
  · omega
  · exact timed (UInt64.le_zero_iff.mp old)

theorem last_arrivals_wait (setup : Setup World) (executor : FullExecutor) (world : World)
    (limit : Nat) (short : limit < config.countThreshold) (timed : config.timeThresholdMs ≠ 0)
    (count : Nat) (within : count ≤ limit) :
    ∃ machine, stateAfter (callStep setup)
        (some ⟨.new (createPolicy "priority" config) executor, world⟩)
        (List.replicate limit (.ingest lastArrival)) count = some machine ∧
      Waits config count machine.engine := by
  induction count with
  | zero => exact ⟨_, rfl, rfl, rfl, rfl, .inl rfl⟩
  | succ count ih =>
      rcases ih (Nat.le_of_succ_le within) with ⟨machine, reached, waits⟩
      have taken : (List.replicate limit (Call.ingest lastArrival))[count]? =
          some (.ingest lastArrival) := by
        rw [List.getElem?_replicate, if_pos (Nat.lt_of_succ_le within)]
      have decided : decision (enqueue lastArrival machine).engine
          (Clock.nowMs (enqueue lastArrival machine).world).1 = false := by
        rw [← Bool.not_eq_true, enqueue_decision_iff waits.policy]
        exact last_arrival_waits waits (by omega) timed
      refine ⟨resting (.ingest lastArrival) machine, ?_, enqueue_waits waits⟩
      have performed := perform_eq setup (.ingest lastArrival) machine
      simp only [sealPoint, decided, Bool.false_eq_true, if_false] at performed
      rw [state_after_succ taken, reached, callStep, performed]
      rfl

end Waiting

/-- A run keeps the critical lane below its threshold exactly when the hybrid rule
happens to seal whenever the lane fills, and all runs do so for the configurations in
which it must: those with no larger total threshold, or no waiting time at all. -/
theorem critical_lane_seals_iff {World : Type} [Clock World] (setup : Setup World)
    (executor : FullExecutor) (world : World) (config : PolicyConfig)
    (positive : 1 ≤ config.criticalThreshold) :
    (∀ calls,
      EachStep (callStep setup) (some ⟨.new (createPolicy "priority" config) executor, world⟩)
          calls (WhileRunning (CriticalBelow setup config.criticalThreshold)) ↔
        EachStep (callStep setup) (some ⟨.new (createPolicy "priority" config) executor, world⟩)
          calls (WhileRunning (HybridSeals config))) ∧
    ((∀ calls,
      EachStep (callStep setup) (some ⟨.new (createPolicy "priority" config) executor, world⟩)
        calls (WhileRunning (CriticalBelow setup config.criticalThreshold))) ↔
      config.countThreshold ≤ config.criticalThreshold ∨ config.timeThresholdMs = 0) := by
  have runs : ∀ calls,
      EachStep (callStep setup) (some ⟨.new (createPolicy "priority" config) executor, world⟩)
          calls (WhileRunning (CriticalBelow setup config.criticalThreshold)) ↔
        EachStep (callStep setup) (some ⟨.new (createPolicy "priority" config) executor, world⟩)
          calls (WhileRunning (HybridSeals config)) :=
    fun calls => while_running_congr (same_policy setup executor world config calls)
      fun machine call policy => critical_below_iff policy positive
  refine ⟨runs, ?_⟩
  constructor
  · intro below
    by_contra neither
    rcases not_or.mp neither with ⟨short, timed⟩
    -- The last of as many critical transactions as the threshold asks for.
    let last := config.criticalThreshold - 1
    have within : last + 1 = config.criticalThreshold := Nat.sub_add_cancel positive
    rcases last_arrivals_wait setup executor world config.criticalThreshold
      (Nat.lt_of_not_le short) timed last (Nat.sub_le _ _) with ⟨machine, reached, waits⟩
    have seals := (runs _).mp (below (List.replicate config.criticalThreshold
      (.ingest lastArrival))) last (.ingest lastArrival)
        (by rw [List.getElem?_replicate, if_pos (by omega)])
    rw [reached] at seals
    have full : config.criticalThreshold ≤
        criticalCount (enqueue lastArrival machine).engine.pending := by
      rw [waits_pending (enqueue_waits waits), within, criticalCount, List.countP_replicate]
      exact Nat.le_refl _
    exact last_arrival_waits waits (by omega) timed (seals lastArrival rfl full)
  · intro either calls
    rw [runs]
    intro count call _
    cases stateAfter (callStep setup)
        (some ⟨.new (createPolicy "priority" config) executor, world⟩) calls count with
    | none => trivial
    | some machine =>
        intro tx _ full
        rcases either with smaller | untimed
        · have counted : criticalCount (enqueue tx machine).engine.pending ≤
              (enqueue tx machine).engine.pending.length := List.countP_le_length
          exact .inl (by omega)
        · rw [untimed]
          exact .inr UInt64.zero_le

theorem equal_thresholds_seal_five :
    EachStep (callStep sampleSetup)
      (some ⟨.new (createPolicy "priority" { PolicyConfig.default with countThreshold := 5 })
        (.new 200000), ⟨0⟩⟩)
      (["a", "b", "c", "d", "e"].map fun id => .ingest (sampleArrival id 0 .critical))
      (WhileRunning (CriticalBelow sampleSetup 5)) :=
  (critical_lane_seals_iff sampleSetup (.new 200000) ⟨0⟩
    { PolicyConfig.default with countThreshold := 5 } (by decide)).2.mpr (.inl (by decide)) _

/-- With the default configuration five critical transactions wait for the ninety-five
others, or for half a second. -/
theorem five_critical_transactions_wait :
    ¬EachStep (callStep sampleSetup)
      (some ⟨.new (createPolicy "priority" .default) (.new 200000), ⟨0⟩⟩)
      (["a", "b", "c", "d", "e"].map fun id => .ingest (sampleArrival id 0 .critical))
      (WhileRunning (CriticalBelow sampleSetup PolicyConfig.default.criticalThreshold)) := by
  intro below
  have last := below 4 (.ingest (sampleArrival "e" 0 .critical)) rfl
  have waiting : ((stateAfter (callStep sampleSetup)
      (some ⟨.new (createPolicy "priority" .default) (.new 200000), ⟨0⟩⟩)
      (["a", "b", "c", "d", "e"].map fun id => .ingest (sampleArrival id 0 .critical)) 4).bind
        (perform sampleSetup (.ingest (sampleArrival "e" 0 .critical)))).map
      (fun outcome => (outcome.1.isOk, criticalCount outcome.2.engine.pending)) =
        some (true, 5) := by
    decide +kernel
  rcases Option.map_eq_some_iff.mp waiting with ⟨⟨result, after⟩, ran, counted⟩
  rcases Option.bind_eq_some_iff.mp ran with ⟨machine, reached, performed⟩
  rw [reached] at last
  cases result with
  | error error => cases counted
  | ok done =>
      have below := last _ after rfl performed
      have five : criticalCount after.engine.pending = 5 := congrArg Prod.snd counted
      rw [five] at below
      exact absurd below (by decide)

end CatalystSvm.CriticalLane
