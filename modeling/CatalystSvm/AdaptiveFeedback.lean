import CatalystSvm.LatencyAverage
import CatalystSvm.PolicyQueries

/-!
# The feedback of the adaptive policy

Nothing passes a recorded latency on to the policy, so the average that it decides by
stays where it started. The run is compared with the one in which every latency is
observed as soon as it is recorded.
-/

namespace CatalystSvm.AdaptiveFeedback

open CatalystSvm.CommonTypes CatalystSvm.MachineArithmetic CatalystSvm.BatchPolicy
open CatalystSvm.CommonMetrics CatalystSvm.ExecutionEngine CatalystSvm.PipelineEngine
open CatalystSvm.PipelineRuns CatalystSvm.PipelineBatches CatalystSvm.LatencyReport
open CatalystSvm.PolicyQueries CatalystSvm.LatencyAverage CatalystSvm.Library.Runs

set_option autoImplicit false

/-! ## The moving average -/

/-- Too short to move an average of zero, rounded down as the code rounds. -/
def Unnoticed (mode : OverflowMode) (latencyMs : UInt64) : Prop :=
  match mode with
  | .wrapping => latencyMs.toNat * 3 % 2 ^ 64 < 10
  | .panicking => latencyMs.toNat * 3 < 10

section Average

variable {mode : OverflowMode} {policy : AdaptivePolicy}

theorem observe_latency_at_rest (rests : policy.observedLatencyMs = 0) (latencyMs : UInt64) :
    policy.observeLatency mode latencyMs =
      (mulU64 mode latencyMs 3).map fun added =>
        { policy with observedLatencyMs := added / 10 } := by
  have kept : mulU64 mode 0 7 = some 0 := by
    cases mode <;> rfl
  have total : ∀ added, addU64 mode 0 added = some added := by
    intro added
    have fits : (0 : UInt64).toNat + added.toNat < 2 ^ 64 := by
      rw [UInt64.toNat_zero, Nat.zero_add]
      exact added.toNat_lt
    rw [add_u64_exact mode 0 added fits, UInt64.zero_add]
  rw [AdaptivePolicy.observeLatency, rests, kept]
  cases tripled : mulU64 mode latencyMs 3 with
  | none => simp
  | some added => simp [total]

theorem tenth_eq_zero_iff (value : UInt64) : value / 10 = 0 ↔ value.toNat < 10 := by
  rw [← UInt64.toNat_inj, UInt64.toNat_div, UInt64.toNat_zero]
  change value.toNat / 10 = 0 ↔ _
  omega

theorem average_rests_iff (rests : policy.observedLatencyMs = 0) (latencyMs : UInt64) :
    (policy.observeLatency mode latencyMs).map AdaptivePolicy.observedLatencyMs = some 0 ↔
      Unnoticed mode latencyMs := by
  rw [observe_latency_at_rest rests, Option.map_map]
  cases mode with
  | wrapping =>
      change some (latencyMs * 3 / 10) = some 0 ↔ _
      rw [Option.some.injEq, tenth_eq_zero_iff, UInt64.toNat_mul]
      exact Iff.rfl
  | panicking =>
      rw [Unnoticed, mulU64]
      change Option.map _ (if latencyMs.toNat * 3 < 2 ^ 64 then _ else _) = _ ↔ _
      by_cases fits : latencyMs.toNat * 3 < 2 ^ 64
      · have exact : (latencyMs * 3).toNat = latencyMs.toNat * 3 := by
          rw [UInt64.toNat_mul]
          exact Nat.mod_eq_of_lt fits
        rw [if_pos fits, Option.map_some, Option.some.injEq]
        change latencyMs * 3 / 10 = 0 ↔ _
        rw [tenth_eq_zero_iff, exact]
      · rw [if_neg fits]
        constructor
        · intro impossible
          cases impossible
        · intro short
          omega

theorem observe_unnoticed (rests : policy.observedLatencyMs = 0) {latencyMs : UInt64}
    (unnoticed : Unnoticed mode latencyMs) :
    policy.observeLatency mode latencyMs = some policy := by
  have average := (average_rests_iff rests latencyMs).mpr unnoticed
  rw [observe_latency_at_rest rests] at average ⊢
  cases tripled : mulU64 mode latencyMs 3 with
  | none =>
      rw [tripled] at average
      cases average
  | some added =>
      rw [tripled] at average
      have zero : added / 10 = 0 := Option.some.inj average
      rw [Option.map_some, zero, ← rests]

def AllUnnoticed (mode : OverflowMode) (batches : List BatchMetrics) : Prop :=
  ∀ batch ∈ batches, Unnoticed mode batch.endToEndLatencyMs

theorem observe_each_append (latencies : List UInt64) (last : UInt64) :
    observeEach mode policy (latencies ++ [last]) =
      (observeEach mode policy latencies).bind fun fed => fed.observeLatency mode last := by
  rw [observeEach, List.foldlM_append]
  simp [observeEach]

theorem observe_each_unnoticed (rests : policy.observedLatencyMs = 0)
    {batches : List BatchMetrics} (unnoticed : AllUnnoticed mode batches) :
    observeEach mode policy (batches.map BatchMetrics.endToEndLatencyMs) = some policy := by
  induction batches with
  | nil => rfl
  | cons first others ih =>
      have same := observe_unnoticed rests (unnoticed first List.mem_cons_self)
      have later := ih fun batch member => unnoticed batch (List.mem_cons_of_mem _ member)
      rw [observeEach, List.map_cons, List.foldlM_cons, same]
      exact later

theorem last_unnoticed_iff (rests : policy.observedLatencyMs = 0) {batches : List BatchMetrics}
    (unnoticed : AllUnnoticed mode batches) (last : BatchMetrics) :
    (observeEach mode policy ((batches ++ [last]).map BatchMetrics.endToEndLatencyMs)).map
      AdaptivePolicy.observedLatencyMs = some 0 ↔ Unnoticed mode last.endToEndLatencyMs := by
  rw [List.map_append, List.map_singleton, observe_each_append,
    observe_each_unnoticed rests unnoticed]
  exact average_rests_iff rests _

end Average

/-! ## The policy and what it should have seen -/

section Feedback

variable {World : Type} [Clock World]

/-- At every `should_seal` the policy's average is that of all batches recorded so far. -/
def FedBack (setup : Setup World) (initial : AdaptivePolicy)
    (machine : Machine AdaptivePolicy World) (call : Call) : Prop :=
  ∀ point, asking call machine = some point →
    (observeEach setup.mode initial
      (point.engine.metrics.batchMetrics.map BatchMetrics.endToEndLatencyMs)).map
        AdaptivePolicy.observedLatencyMs = some (queryOf point).policy.observedLatencyMs

def RecordsUnnoticed (setup : Setup World) (machine : Machine AdaptivePolicy World)
    (call : Call) : Prop :=
  ∀ point, asking call machine = some point →
    AllUnnoticed setup.mode point.engine.metrics.batchMetrics

/-- The policy is as it was made. What the next `should_seal` has not seen yet is at most
one batch, and then nothing is queued that `flush` could seal before. -/
structure Unfed (setup : Setup World) (initial : AdaptivePolicy)
    (machine : Machine AdaptivePolicy World) : Prop where
  policy : machine.engine.policy = initial
  unseen : AllUnnoticed setup.mode machine.engine.metrics.batchMetrics ∨
    (machine.engine.pending = [] ∧ ∃ earlier last,
      machine.engine.metrics.batchMetrics = earlier ++ [last] ∧
        AllUnnoticed setup.mode earlier)

variable {setup : Setup World} {initial : AdaptivePolicy} {call : Call}
variable {machine after : Machine AdaptivePolicy World}

theorem enqueue_records (tx : Transaction) (machine : Machine AdaptivePolicy World) :
    (enqueue tx machine).engine.metrics = machine.engine.metrics ∧
      (enqueue tx machine).engine.policy = machine.engine.policy := by
  rw [enqueue_engine]
  exact ⟨rfl, rfl⟩

theorem fed_back_iff (rests : initial.observedLatencyMs = 0)
    (unfed : Unfed setup initial machine) :
    FedBack setup initial machine call ↔ RecordsUnnoticed setup machine call := by
  cases call with
  | flush =>
      constructor
      · intro _ point asked
        cases asked
      · intro _ point asked
        cases asked
  | ingest tx =>
      obtain ⟨metrics, policy⟩ := enqueue_records tx machine
      constructor
      · intro fedBack point asked
        have average := fedBack point asked
        cases asked
        change _ = some (enqueue tx machine).engine.policy.observedLatencyMs at average
        rw [metrics, policy, unfed.policy, rests] at average
        rw [metrics]
        obtain all | ⟨_, earlier, last, records, before⟩ := unfed.unseen
        · exact all
        · rw [records] at average ⊢
          have unnoticed := (last_unnoticed_iff rests before last).mp average
          intro batch member
          obtain old | new := List.mem_append.mp member
          · exact before batch old
          · rw [List.mem_singleton.mp new]
            exact unnoticed
      · intro unnoticed point asked
        have all := unnoticed point asked
        cases asked
        change _ = some (enqueue tx machine).engine.policy.observedLatencyMs
        rw [policy, unfed.policy, observe_each_unnoticed rests all]
        rfl

theorem perform_unfed {result : Except ExecError Unit} (unfed : Unfed setup initial machine)
    (unnoticed : RecordsUnnoticed setup machine call)
    (returned : perform setup call machine = some (result, after)) :
    Unfed setup initial after := by
  have policy := (perform_keeps returned).1
  have idle : after = machine ∨ AllUnnoticed setup.mode machine.engine.metrics.batchMetrics := by
    cases call with
    | ingest tx =>
        right
        have seen := unnoticed (enqueue tx machine) rfl
        rw [(enqueue_records tx machine).1] at seen
        exact seen
    | flush =>
        obtain all | ⟨empty, _⟩ := unfed.unseen
        · exact .inr all
        · left
          rw [perform_asks, askAndAct] at returned
          simp only [asking, empty, if_true, Option.some.injEq, Prod.mk.injEq] at returned
          exact returned.2.symm
  obtain same | all := idle
  · rw [same]
    exact unfed
  · refine ⟨policy.trans unfed.policy, ?_⟩
    obtain rests | ⟨_, _, counted⟩ | ⟨done, empty, _, counted⟩ := perform_records returned
    · left
      rw [rests, (resting_frame call machine).metrics]
      exact all
    · left
      rw [counted]
      exact all
    · right
      refine ⟨empty, machine.engine.metrics.batchMetrics, done.entry.metrics, ?_, all⟩
      rw [counted]
      rfl

omit [Clock World] in
theorem new_unfed (setup : Setup World) (initial : AdaptivePolicy) (executor : FullExecutor)
    (world : World) : Unfed setup initial ⟨.new initial executor, world⟩ := by
  refine ⟨rfl, .inl ?_⟩
  intro batch member
  cases member

end Feedback

/-- Over every run: the feedback is closed exactly when no latency would ever be noticed. -/
theorem feedback_closed_iff_unnoticed {World : Type} [Clock World] (setup : Setup World)
    (baseCount maxCount : Nat) (timeThresholdMs latencyBudgetMs : UInt64)
    (executor : FullExecutor) (world : World) (calls : List Call) :
    EachStep (callStep setup)
        (some ⟨.new (.new baseCount maxCount timeThresholdMs latencyBudgetMs) executor, world⟩)
        calls
        (WhileRunning (FedBack setup
          (.new baseCount maxCount timeThresholdMs latencyBudgetMs))) ↔
      EachStep (callStep setup)
        (some ⟨.new (.new baseCount maxCount timeThresholdMs latencyBudgetMs) executor, world⟩)
        calls (WhileRunning (RecordsUnnoticed setup)) := by
  have rests : (AdaptivePolicy.new baseCount maxCount timeThresholdMs
      latencyBudgetMs).observedLatencyMs = 0 := rfl
  generalize AdaptivePolicy.new baseCount maxCount timeThresholdMs latencyBudgetMs = initial
    at rests ⊢
  constructor
  · intro fedBack
    have unfed : Always (callStep setup) (some ⟨.new initial executor, world⟩) calls
        (OnceRunning (Unfed setup initial)) := by
      apply once_running_of_each_step (new_unfed setup initial executor world) _ fedBack
      intro machine call result after before allowed returned
      exact perform_unfed before ((fed_back_iff rests before).mp allowed) returned
    apply while_running_given unfed fedBack
    intro machine call before allowed
    exact (fed_back_iff rests before).mp allowed
  · intro unnoticed
    have unfed : Always (callStep setup) (some ⟨.new initial executor, world⟩) calls
        (OnceRunning (Unfed setup initial)) := by
      apply once_running_of_each_step (new_unfed setup initial executor world) _ unnoticed
      intro machine call result after before allowed returned
      exact perform_unfed before allowed returned
    apply while_running_given unfed unnoticed
    intro machine call before allowed
    exact (fed_back_iff rests before).mpr allowed

/-- The first batch takes 55 ms, so that the average is 16 ms when `b` arrives; the policy
is asked with an average of zero. -/
theorem latency_never_reaches_the_policy :
    ¬ EachStep (callStep timedSetup)
      (some ⟨.new (.new 100 1 500 1000) (.new 200000), ⟨0⟩, ()⟩)
      [.ingest (sampleArrival "a" 0 .normal), .ingest (sampleArrival "b" 100 .normal)]
      (WhileRunning (FedBack timedSetup (.new 100 1 500 1000))) := by
  intro fedBack
  have answered : (queryOf (enqueue (sampleArrival "a" 0 .normal)
      (Machine.mk (.new (AdaptivePolicy.new 100 1 500 1000) (.new 200000))
        (VirtualClock.mk 0, ())))).answer = true :=
    adaptive_seals_at _ 1 (Nat.le_refl _) (Nat.le_refl _) _ _ _ (by decide)
  have recorded : (perform timedSetup (.ingest (sampleArrival "a" 0 .normal))
      (Machine.mk (.new (AdaptivePolicy.new 100 1 500 1000) (.new 200000))
        (VirtualClock.mk 0, ()))).map (fun outcome =>
          outcome.2.engine.metrics.batchMetrics.map BatchMetrics.endToEndLatencyMs) =
      some [55] := by
    rw [perform_asks, askAndAct]
    simp only [asking, if_pos answered]
    decide +kernel
  obtain ⟨⟨result, after⟩, performed, latencies⟩ := Option.map_eq_some_iff.mp recorded
  have policy := (perform_keeps performed).1
  have reached : callStep timedSetup (some (Machine.mk
      (.new (AdaptivePolicy.new 100 1 500 1000) (.new 200000)) (VirtualClock.mk 0, ())))
      (.ingest (sampleArrival "a" 0 .normal)) = some after := by
    rw [callStep, performed]
    rfl
  rw [each_step_cons, reached, each_step_cons] at fedBack
  have average := fedBack.2.1 _ rfl
  change _ = some (enqueue (sampleArrival "b" 100 .normal) after).engine.policy.observedLatencyMs
    at average
  obtain ⟨metrics, samePolicy⟩ := enqueue_records (sampleArrival "b" 100 .normal) after
  change after.engine.metrics.batchMetrics.map BatchMetrics.endToEndLatencyMs = [55] at latencies
  rw [metrics, samePolicy, policy, latencies] at average
  revert average
  decide +kernel

end CatalystSvm.AdaptiveFeedback
