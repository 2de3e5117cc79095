import Mathlib.Data.List.Basic
import CatalystSvm.MachineArithmetic

/-!
# Batch sealing policies

Transcription of `crates/batch-policy/src/lib.rs` and of the `PolicyEngine`
trait of `crates/common/src/lib.rs`. The decision is a function of the policy's
fields, the queue length, the wait of the oldest transaction and the arrival
rate; the notifications that could change the fields have no caller, and of them
only the adaptive policy's `observe_latency` is here. The policy that follows the
traffic has a module of its own. The arithmetic on `f64` is Lean's own, and nothing
below depends on its results.
-/

namespace CatalystSvm.BatchPolicy

open CatalystSvm.MachineArithmetic

set_option autoImplicit false

class PolicyEngine (Policy : Type) where
  shouldSeal : Policy → Nat → UInt64 → Float → Bool
  name : Policy → String

def usizeAsF64 (value : Nat) : Float :=
  (UInt64.ofNat value).toFloat

/-- `f64::max`, which ignores a `NaN` on either side. -/
def f64Max (left right : Float) : Float :=
  if left.isNaN then right
  else if right.isNaN then left
  else if left < right then right else left

structure FixedCountPolicy where
  threshold : Nat

instance : PolicyEngine FixedCountPolicy where
  shouldSeal policy queueLen _ _ := decide (policy.threshold ≤ queueLen)
  name _ := "FixedCount"

structure FixedTimePolicy where
  intervalMs : UInt64

instance : PolicyEngine FixedTimePolicy where
  shouldSeal policy queueLen oldestWaitMs _ :=
    decide (0 < queueLen) && decide (policy.intervalMs ≤ oldestWaitMs)
  name _ := "FixedTime"

structure HybridPolicy where
  countThreshold : Nat
  timeThresholdMs : UInt64

instance : PolicyEngine HybridPolicy where
  shouldSeal policy queueLen oldestWaitMs _ :=
    decide (policy.countThreshold ≤ queueLen) ||
      (decide (0 < queueLen) && decide (policy.timeThresholdMs ≤ oldestWaitMs))
  name _ := "Hybrid"

structure AdaptivePolicy where
  baseCount : Nat
  maxCount : Nat
  minCount : Nat
  timeThresholdMs : UInt64
  latencyBudgetMs : UInt64
  observedLatencyMs : UInt64
  queueGrowthRate : Float

def AdaptivePolicy.new (baseCount maxCount : Nat) (timeThresholdMs latencyBudgetMs : UInt64) :
    AdaptivePolicy where
  baseCount := baseCount
  maxCount := maxCount
  minCount := 1
  timeThresholdMs := timeThresholdMs
  latencyBudgetMs := latencyBudgetMs
  observedLatencyMs := 0
  queueGrowthRate := 1.0

def AdaptivePolicy.scaledThreshold (policy : AdaptivePolicy) : Float :=
  let threshold := usizeAsF64 policy.baseCount
  let threshold :=
    if policy.queueGrowthRate > 1.5 then
      threshold * (1.0 + (policy.queueGrowthRate - 1.0) * 0.3)
    else threshold
  if policy.observedLatencyMs > 0 then
    let latencyRatio := policy.observedLatencyMs.toFloat / policy.latencyBudgetMs.toFloat
    if latencyRatio > 0.7 then
      let shrinkFactor := 1.0 - (latencyRatio - 0.7) * 2.0
      threshold * f64Max shrinkFactor 0.3
    else threshold
  else threshold

/-- The cast from `f64` truncates, saturates, and sends `NaN` to zero. -/
def AdaptivePolicy.computeThreshold (policy : AdaptivePolicy) : Nat :=
  min (max policy.scaledThreshold.ceil.toUInt64.toNat policy.minCount) policy.maxCount

instance : PolicyEngine AdaptivePolicy where
  shouldSeal policy queueLen oldestWaitMs avgArrivalRate :=
    if queueLen = 0 then false
    else if policy.computeThreshold ≤ queueLen then true
    else if policy.timeThresholdMs ≤ oldestWaitMs then true
    else if policy.latencyBudgetMs ≤ oldestWaitMs then true
    else if avgArrivalRate > 100.0 ∧ policy.minCount ≤ queueLen then true
    else false
  name _ := "Adaptive"

def AdaptivePolicy.observeLatency (mode : OverflowMode) (policy : AdaptivePolicy)
    (latencyMs : UInt64) : Option AdaptivePolicy := do
  let kept ← mulU64 mode policy.observedLatencyMs 7
  let added ← mulU64 mode latencyMs 3
  let total ← addU64 mode kept added
  some { policy with observedLatencyMs := total / 10 }

structure PriorityAwarePolicy where
  basePolicy : HybridPolicy
  criticalCountThreshold : Nat

def PriorityAwarePolicy.new (countThreshold : Nat) (timeThresholdMs : UInt64)
    (criticalCountThreshold : Nat) : PriorityAwarePolicy where
  basePolicy := { countThreshold, timeThresholdMs }
  criticalCountThreshold := criticalCountThreshold

instance : PolicyEngine PriorityAwarePolicy where
  shouldSeal policy := PolicyEngine.shouldSeal policy.basePolicy
  name _ := "PriorityAware"

inductive DynPolicy where
  | fixedCount (policy : FixedCountPolicy)
  | fixedTime (policy : FixedTimePolicy)
  | hybrid (policy : HybridPolicy)
  | adaptive (policy : AdaptivePolicy)
  | priorityAware (policy : PriorityAwarePolicy)

instance : PolicyEngine DynPolicy where
  shouldSeal
    | .fixedCount policy => PolicyEngine.shouldSeal policy
    | .fixedTime policy => PolicyEngine.shouldSeal policy
    | .hybrid policy => PolicyEngine.shouldSeal policy
    | .adaptive policy => PolicyEngine.shouldSeal policy
    | .priorityAware policy => PolicyEngine.shouldSeal policy
  name
    | .fixedCount policy => PolicyEngine.name policy
    | .fixedTime policy => PolicyEngine.name policy
    | .hybrid policy => PolicyEngine.name policy
    | .adaptive policy => PolicyEngine.name policy
    | .priorityAware policy => PolicyEngine.name policy

structure PolicyConfig where
  countThreshold : Nat
  timeThresholdMs : UInt64
  latencyBudgetMs : UInt64
  maxBatchSize : Nat
  criticalThreshold : Nat
  deriving DecidableEq, Repr

def PolicyConfig.default : PolicyConfig where
  countThreshold := 100
  timeThresholdMs := 500
  latencyBudgetMs := 1000
  maxBatchSize := 500
  criticalThreshold := 5

/-- No letter outside ASCII has a lower case that the factory's names contain. -/
def toLowercase (text : String) : String :=
  String.ofList (text.toList.map Char.toLower)

def createPolicy (name : String) (config : PolicyConfig) : DynPolicy :=
  match toLowercase name with
  | "fixedcount" | "fixed_count" => .fixedCount { threshold := config.countThreshold }
  | "fixedtime" | "fixed_time" => .fixedTime { intervalMs := config.timeThresholdMs }
  | "hybrid" =>
      .hybrid { countThreshold := config.countThreshold
                timeThresholdMs := config.timeThresholdMs }
  | "adaptive" =>
      .adaptive (.new config.countThreshold config.maxBatchSize config.timeThresholdMs
        config.latencyBudgetMs)
  | "priority" | "priorityaware" =>
      .priorityAware (.new config.countThreshold config.timeThresholdMs config.criticalThreshold)
  | _ =>
      .hybrid { countThreshold := config.countThreshold
                timeThresholdMs := config.timeThresholdMs }

theorem create_policy_priority (config : PolicyConfig) :
    createPolicy "priority" config = .priorityAware
      (.new config.countThreshold config.timeThresholdMs config.criticalThreshold) := by
  have lower : toLowercase "priority" = "priority" := by decide
  rw [createPolicy, lower]
  rfl

/-! ## What every policy decides at a full queue -/

section Decisions

variable {Policy : Type} [PolicyEngine Policy]

def SealsAt (policy : Policy) (limit : Nat) : Prop :=
  ∀ queueLen oldestWaitMs avgArrivalRate, limit ≤ queueLen →
    PolicyEngine.shouldSeal policy queueLen oldestWaitMs avgArrivalRate = true

def SealsAfter (policy : Policy) (limitMs : UInt64) : Prop :=
  ∀ queueLen oldestWaitMs avgArrivalRate, 0 < queueLen → limitMs ≤ oldestWaitMs →
    PolicyEngine.shouldSeal policy queueLen oldestWaitMs avgArrivalRate = true

def WaitsBelow (policy : Policy) (limit : Nat) : Prop :=
  ∀ queueLen oldestWaitMs avgArrivalRate, queueLen < limit →
    PolicyEngine.shouldSeal policy queueLen oldestWaitMs avgArrivalRate = false

end Decisions

theorem fixed_count_seals_at (policy : FixedCountPolicy) : SealsAt policy policy.threshold := by
  intro queueLen oldestWaitMs avgArrivalRate full
  exact decide_eq_true full

theorem fixed_count_waits_below (policy : FixedCountPolicy) :
    WaitsBelow policy policy.threshold := by
  intro queueLen oldestWaitMs avgArrivalRate short
  exact decide_eq_false (Nat.not_le.mpr short)

theorem fixed_time_seals_after (policy : FixedTimePolicy) :
    SealsAfter policy policy.intervalMs := by
  intro queueLen oldestWaitMs avgArrivalRate nonempty waited
  simp [PolicyEngine.shouldSeal, nonempty, waited]

theorem hybrid_seals_iff (policy : HybridPolicy) (queueLen : Nat) (oldestWaitMs : UInt64)
    (avgArrivalRate : Float) :
    PolicyEngine.shouldSeal policy queueLen oldestWaitMs avgArrivalRate = true ↔
      policy.countThreshold ≤ queueLen ∨
        (0 < queueLen ∧ policy.timeThresholdMs ≤ oldestWaitMs) := by
  simp [PolicyEngine.shouldSeal]

theorem hybrid_seals_at (policy : HybridPolicy) : SealsAt policy policy.countThreshold := by
  intro queueLen oldestWaitMs avgArrivalRate full
  exact (hybrid_seals_iff policy _ _ _).mpr (.inl full)

theorem hybrid_seals_after (policy : HybridPolicy) : SealsAfter policy policy.timeThresholdMs := by
  intro queueLen oldestWaitMs avgArrivalRate nonempty waited
  exact (hybrid_seals_iff policy _ _ _).mpr (.inr ⟨nonempty, waited⟩)

theorem adaptive_seals_after (policy : AdaptivePolicy) :
    SealsAfter policy (min policy.timeThresholdMs policy.latencyBudgetMs) := by
  intro queueLen oldestWaitMs avgArrivalRate nonempty waited
  simp only [PolicyEngine.shouldSeal]
  rw [if_neg (Nat.ne_of_gt nonempty)]
  split_ifs with full late breached fast <;> try rfl
  rcases Std.min_eq_or (a := policy.timeThresholdMs) (b := policy.latencyBudgetMs) with same | same
  · rw [same] at waited
    exact absurd waited late
  · rw [same] at waited
    exact absurd waited breached

/-- The clamp comes last, so no value of the floating-point part passes `max_count`. -/
theorem adaptive_seals_at (policy : AdaptivePolicy) (limit : Nat) (positive : 1 ≤ limit)
    (covers : policy.maxCount ≤ limit) : SealsAt policy limit := by
  intro queueLen oldestWaitMs avgArrivalRate full
  have clamped : policy.computeThreshold ≤ policy.maxCount := Nat.min_le_right _ _
  have nonempty : queueLen ≠ 0 := by omega
  have reached : policy.computeThreshold ≤ queueLen := by omega
  simp only [PolicyEngine.shouldSeal]
  rw [if_neg nonempty, if_pos reached]

end CatalystSvm.BatchPolicy
