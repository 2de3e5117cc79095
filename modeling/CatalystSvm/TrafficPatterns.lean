import CatalystSvm.Library.RingBuffer
import CatalystSvm.Library.Words
import CatalystSvm.BatchPolicy

/-!
# The policy that follows the traffic

Transcription of `AutoPolicy` from `crates/batch-policy/src/lib.rs`. Arrivals are
written into a buffer of one hundred slots; from the buffer a traffic pattern is
read, and a new pattern sets the count and the time at which a batch is sealed.
The variance is computed on `f64`, and nothing below depends on its value. The
two batch sizes are added, so they are machine words here.
-/

namespace CatalystSvm.TrafficPatterns

open CatalystSvm.MachineArithmetic CatalystSvm.BatchPolicy
open CatalystSvm.Library.RingBuffer CatalystSvm.Library.Words

set_option autoImplicit false

inductive TrafficPattern where
  | idle
  | steady
  | bursty
  | highLoad
  deriving DecidableEq, Repr

structure AutoPolicy where
  minBatch : UInt64
  maxBatch : UInt64
  maxLatencyMs : UInt64
  arrivalTimes : List UInt64
  arrivalIdx : Nat
  lastArrivalMs : UInt64
  observedPattern : TrafficPattern
  currentThreshold : UInt64
  currentTimeLimitMs : UInt64

def AutoPolicy.new (minBatch maxBatch maxLatencyMs : UInt64) : AutoPolicy where
  minBatch := minBatch
  maxBatch := maxBatch
  maxLatencyMs := maxLatencyMs
  arrivalTimes := List.replicate 100 0
  arrivalIdx := 0
  lastArrivalMs := 0
  observedPattern := .idle
  currentThreshold := minBatch
  currentTimeLimitMs := maxLatencyMs

/-- The stored arrivals of the last `span` milliseconds, in storage order. -/
def recentTimes (span : UInt64) (arrivalTimes : List UInt64) (nowMs : UInt64) : List UInt64 :=
  arrivalTimes.filter fun time =>
    decide (saturatingSub nowMs span < time) && decide (time ≤ nowMs)

def recentCount (arrivalTimes : List UInt64) (nowMs : UInt64) : Nat :=
  (recentTimes 1000 arrivalTimes nowMs).length

/-- `windows(2)` with a saturating difference. -/
def intervals (arrivalTimes : List UInt64) (nowMs : UInt64) : List UInt64 :=
  neighbours (fun first second => saturatingSub second first)
    (recentTimes 5000 arrivalTimes nowMs)

/-- The standard deviation of the intervals; only their sum is computed on `u64`. -/
def variance (mode : OverflowMode) (intervals : List UInt64) : Option Float :=
  if 1 < intervals.length then do
    let sum ← accumulate mode 0 intervals
    let mean := sum.toFloat / usizeAsF64 intervals.length
    let squares := intervals.map fun interval =>
      (interval.toFloat - mean) * (interval.toFloat - mean)
    some (squares.foldl (· + ·) 0.0 / usizeAsF64 intervals.length).sqrt
  else some 0.0

def classify (recentCount : Nat) (variance : Float) : TrafficPattern :=
  if recentCount < 1 then .idle
  else if 100 < recentCount then .highLoad
  else if variance > 200.0 then .bursty
  else .steady

def AutoPolicy.adaptToPattern (mode : OverflowMode) (policy : AutoPolicy) : Option AutoPolicy :=
  match policy.observedPattern with
  | .idle =>
      some { policy with currentThreshold := policy.minBatch, currentTimeLimitMs := 500 }
  | .steady => do
      let sizes ← addU64 mode policy.minBatch policy.maxBatch
      some { policy with
        currentThreshold := sizes / 2
        currentTimeLimitMs := policy.maxLatencyMs / 2 }
  | .bursty =>
      some { policy with currentThreshold := policy.minBatch, currentTimeLimitMs := 200 }
  | .highLoad =>
      some { policy with
        currentThreshold := policy.maxBatch
        currentTimeLimitMs := policy.maxLatencyMs }

def AutoPolicy.updatePattern (mode : OverflowMode) (policy : AutoPolicy) (nowMs : UInt64) :
    Option AutoPolicy := do
  let count := recentCount policy.arrivalTimes nowMs
  let variance ← variance mode (intervals policy.arrivalTimes nowMs)
  let newPattern := classify count variance
  if newPattern ≠ policy.observedPattern then
    AutoPolicy.adaptToPattern mode { policy with observedPattern := newPattern }
  else some policy

/-- The write at the cursor panics when the cursor is outside. -/
def AutoPolicy.recordArrival (mode : OverflowMode) (policy : AutoPolicy) (nowMs : UInt64) :
    Option AutoPolicy :=
  if policy.arrivalIdx < policy.arrivalTimes.length then
    AutoPolicy.updatePattern mode { policy with
      arrivalTimes := policy.arrivalTimes.set policy.arrivalIdx nowMs
      arrivalIdx := (policy.arrivalIdx + 1) % policy.arrivalTimes.length
      lastArrivalMs := nowMs } nowMs
  else none

def AutoPolicy.currentPattern (policy : AutoPolicy) : TrafficPattern := policy.observedPattern

instance : PolicyEngine AutoPolicy where
  shouldSeal policy queueLen oldestWaitMs avgArrivalRate :=
    if queueLen = 0 then false
    else if policy.currentThreshold.toNat ≤ queueLen then true
    else if policy.currentTimeLimitMs ≤ oldestWaitMs then true
    else if policy.maxLatencyMs ≤ oldestWaitMs then true
    else if avgArrivalRate > 50.0 ∧ policy.minBatch.toNat ≤ queueLen then true
    else false
  name _ := "Auto"

def AutoPolicy.observeQueueGrowth (mode : OverflowMode) (policy : AutoPolicy) (rate : Float) :
    Option AutoPolicy :=
  if rate > 2.0 ∧ policy.observedPattern ≠ .highLoad then
    AutoPolicy.adaptToPattern mode { policy with observedPattern := .bursty }
  else some policy

inductive Call where
  | recordArrival (nowMs : UInt64)
  | observeQueueGrowth (rate : Float)

def perform (mode : OverflowMode) (policy : AutoPolicy) : Call → Option AutoPolicy
  | .recordArrival nowMs => policy.recordArrival mode nowMs
  | .observeQueueGrowth rate => policy.observeQueueGrowth mode rate

def performAll (mode : OverflowMode) (policy : AutoPolicy) (calls : List Call) :
    Option AutoPolicy :=
  calls.foldlM (perform mode) policy

def arrivals (calls : List Call) : List UInt64 :=
  calls.filterMap fun
    | .recordArrival nowMs => some nowMs
    | .observeQueueGrowth _ => none

/-! ## What one call can change -/

def Chosen (mode : OverflowMode) (minBatch maxBatch threshold : UInt64) : Prop :=
  threshold = minBatch ∨ threshold = maxBatch ∨
    ∃ sizes, addU64 mode minBatch maxBatch = some sizes ∧ threshold = sizes / 2

section Calls

variable {mode : OverflowMode} {policy after : AutoPolicy}

theorem adapt_to_pattern_some (adapted : policy.adaptToPattern mode = some after) :
    ∃ threshold limit,
      after = { policy with currentThreshold := threshold, currentTimeLimitMs := limit } ∧
      Chosen mode policy.minBatch policy.maxBatch threshold := by
  rw [AutoPolicy.adaptToPattern] at adapted
  cases pattern : policy.observedPattern with
  | idle =>
      rw [pattern] at adapted
      exact ⟨_, _, (Option.some.inj adapted).symm, .inl rfl⟩
  | steady =>
      simp only [pattern, bind, Option.bind_eq_some_iff, Option.some.injEq] at adapted
      obtain ⟨sizes, added, same⟩ := adapted
      exact ⟨_, _, same.symm, .inr (.inr ⟨sizes, added, rfl⟩)⟩
  | bursty =>
      rw [pattern] at adapted
      exact ⟨_, _, (Option.some.inj adapted).symm, .inl rfl⟩
  | highLoad =>
      rw [pattern] at adapted
      exact ⟨_, _, (Option.some.inj adapted).symm, .inr (.inl rfl)⟩

structure Recorded (mode : OverflowMode) (policy after : AutoPolicy) (nowMs : UInt64) : Prop where
  inside : policy.arrivalIdx < policy.arrivalTimes.length
  minBatch : after.minBatch = policy.minBatch
  maxBatch : after.maxBatch = policy.maxBatch
  maxLatencyMs : after.maxLatencyMs = policy.maxLatencyMs
  arrivalTimes : after.arrivalTimes = policy.arrivalTimes.set policy.arrivalIdx nowMs
  arrivalIdx : after.arrivalIdx = (policy.arrivalIdx + 1) % policy.arrivalTimes.length
  pattern : ∃ variance,
    after.observedPattern = classify (recentCount after.arrivalTimes nowMs) variance
  threshold : after.currentThreshold = policy.currentThreshold ∨
    Chosen mode policy.minBatch policy.maxBatch after.currentThreshold

theorem record_arrival_some {nowMs : UInt64}
    (recorded : policy.recordArrival mode nowMs = some after) :
    Recorded mode policy after nowMs := by
  rw [AutoPolicy.recordArrival] at recorded
  split_ifs at recorded with inside
  simp only [AutoPolicy.updatePattern, bind, Option.bind_eq_some_iff] at recorded
  obtain ⟨variance, _, decided⟩ := recorded
  split_ifs at decided with changed
  · obtain ⟨threshold, limit, same, chosen⟩ := adapt_to_pattern_some decided
    subst same
    exact ⟨inside, rfl, rfl, rfl, rfl, rfl, ⟨variance, rfl⟩, .inr chosen⟩
  · rw [not_not] at changed
    have same := Option.some.inj decided
    subst same
    exact ⟨inside, rfl, rfl, rfl, rfl, rfl, ⟨variance, changed.symm⟩, .inl rfl⟩

theorem observe_queue_growth_some {rate : Float}
    (observed : policy.observeQueueGrowth mode rate = some after) :
    ∃ pattern threshold limit, after = { policy with
        observedPattern := pattern
        currentThreshold := threshold
        currentTimeLimitMs := limit } ∧
      (threshold = policy.currentThreshold ∨
        Chosen mode policy.minBatch policy.maxBatch threshold) := by
  rw [AutoPolicy.observeQueueGrowth] at observed
  split_ifs at observed
  · obtain ⟨threshold, limit, same, chosen⟩ := adapt_to_pattern_some observed
    exact ⟨_, threshold, limit, same, .inr chosen⟩
  · exact ⟨_, _, _, (Option.some.inj observed).symm, .inl rfl⟩

end Calls

end CatalystSvm.TrafficPatterns
