import Mathlib.Algebra.Order.BigOperators.Group.List
import Mathlib.Algebra.Order.Ring.Nat
import Mathlib.Algebra.Group.Action.Defs
import CatalystSvm.TrafficPatterns

/-!
# What every sequence of calls leaves true

The buffer shows the last hundred arrivals, and whatever pattern is read from it,
the threshold stays between the two batch sizes. So the time limits, some of them
constants, can only seal earlier than the two hard limits.
-/

namespace CatalystSvm.PatternInvariants

open CatalystSvm.MachineArithmetic CatalystSvm.BatchPolicy CatalystSvm.TrafficPatterns
open CatalystSvm.Library.RingBuffer CatalystSvm.Library.Words

set_option autoImplicit false

structure Sound (least most latest : UInt64) (written : List UInt64) (policy : AutoPolicy) :
    Prop where
  minBatch : policy.minBatch = least
  maxBatch : policy.maxBatch = most
  maxLatencyMs : policy.maxLatencyMs = latest
  buffer : Holds 100 0 policy.arrivalTimes policy.arrivalIdx written
  lower : least ≤ policy.currentThreshold
  upper : policy.currentThreshold ≤ most

/-! ## The intervals fit -/

theorem recent_times_bounds {span nowMs time : UInt64} {times : List UInt64}
    (member : time ∈ recentTimes span times nowMs) :
    nowMs.toNat - span.toNat < time.toNat ∧ time.toNat ≤ nowMs.toNat := by
  rw [recentTimes, List.mem_filter, Bool.and_eq_true, decide_eq_true_iff, decide_eq_true_iff,
    UInt64.lt_iff_toNat_lt, UInt64.le_iff_toNat_le, saturating_sub_to_nat] at member
  exact member.2

theorem interval_bound (times : List UInt64) (nowMs : UInt64) :
    ∀ interval ∈ intervals times nowMs, interval.toNat ≤ 5000 := by
  have span : (5000 : UInt64).toNat = 5000 := rfl
  apply neighbours_forall (fun interval : UInt64 => interval.toNat ≤ 5000)
    (fun time listed => recent_times_bounds listed)
  intro first second earlier later
  rw [saturating_sub_to_nat]
  omega

theorem recent_times_length (span nowMs : UInt64) (times : List UInt64) :
    (recentTimes span times nowMs).length ≤ times.length :=
  List.length_filter_le _ _

/-- At most ninety-nine intervals of at most five seconds. -/
theorem variance_returns (mode : OverflowMode) {times : List UInt64} (nowMs : UInt64)
    (size : times.length = 100) : ∃ value, variance mode (intervals times nowMs) = some value := by
  rw [variance]
  split_ifs with several
  · have count : (intervals times nowMs).length ≤ 100 := by
      rw [intervals, neighbours_length]
      have stored := recent_times_length 5000 nowMs times
      omega
    have total : ((intervals times nowMs).map UInt64.toNat).sum ≤
        ((intervals times nowMs).map UInt64.toNat).length • 5000 := by
      apply List.sum_le_card_nsmul
      intro value member
      obtain ⟨interval, listed, rfl⟩ := List.mem_map.mp member
      exact interval_bound times nowMs interval listed
    rw [List.length_map, smul_eq_mul] at total
    obtain ⟨sum, added, _⟩ := accumulate_exact mode 0 (intervals times nowMs)
      (by rw [UInt64.toNat_zero]; omega)
    simp only [added, bind, Option.bind_some]
    exact ⟨_, rfl⟩
  · exact ⟨_, rfl⟩

/-! ## One call -/

section Calls

variable {mode : OverflowMode} {least most latest : UInt64} {written : List UInt64}
variable {policy after : AutoPolicy}

theorem chosen_between {threshold : UInt64} (ordered : least ≤ most)
    (room : least.toNat + most.toNat < 2 ^ 64) (chosen : Chosen mode least most threshold) :
    least ≤ threshold ∧ threshold ≤ most := by
  have two : (2 : UInt64).toNat = 2 := rfl
  obtain first | second | ⟨sizes, added, half⟩ := chosen
  · rw [first]
    exact ⟨UInt64.le_refl least, ordered⟩
  · rw [second]
    exact ⟨ordered, UInt64.le_refl most⟩
  · have value : threshold.toNat = (least.toNat + most.toNat) / 2 := by
      rw [half, add_u64_value added, UInt64.toNat_div, UInt64.toNat_add, Nat.mod_eq_of_lt room, two]
    rw [UInt64.le_iff_toNat_le] at ordered ⊢
    rw [UInt64.le_iff_toNat_le]
    omega

theorem threshold_between (ordered : least ≤ most) (room : least.toNat + most.toNat < 2 ^ 64)
    (sound : Sound least most latest written policy) {threshold : UInt64}
    (moved : threshold = policy.currentThreshold ∨
      Chosen mode policy.minBatch policy.maxBatch threshold) :
    least ≤ threshold ∧ threshold ≤ most := by
  cases moved with
  | inl kept =>
      rw [kept]
      exact ⟨sound.lower, sound.upper⟩
  | inr chosen =>
      rw [sound.minBatch, sound.maxBatch] at chosen
      exact chosen_between ordered room chosen

theorem new_sound (ordered : least ≤ most) :
    Sound least most latest [] (.new least most latest) where
  minBatch := rfl
  maxBatch := rfl
  maxLatencyMs := rfl
  buffer := holds_nothing 100 0
  lower := UInt64.le_refl least
  upper := ordered

theorem sound_cursor (sound : Sound least most latest written policy) :
    policy.arrivalIdx < 100 := by
  have inside := cursor_lt (by decide) sound.buffer
  rwa [sound.buffer.length] at inside

theorem record_buffer {nowMs : UInt64} (recorded : Recorded mode policy after nowMs)
    (buffer : Holds 100 0 policy.arrivalTimes policy.arrivalIdx written) :
    Holds 100 0 after.arrivalTimes after.arrivalIdx (written ++ [nowMs]) := by
  rw [recorded.arrivalTimes, recorded.arrivalIdx, buffer.length]
  exact holds_write (by decide) buffer nowMs

theorem record_arrival_sound {nowMs : UInt64} (ordered : least ≤ most)
    (room : least.toNat + most.toNat < 2 ^ 64) (sound : Sound least most latest written policy)
    (recorded : Recorded mode policy after nowMs) :
    Sound least most latest (written ++ [nowMs]) after := by
  have between := threshold_between ordered room sound recorded.threshold
  constructor
  case minBatch => rw [recorded.minBatch, sound.minBatch]
  case maxBatch => rw [recorded.maxBatch, sound.maxBatch]
  case maxLatencyMs => rw [recorded.maxLatencyMs, sound.maxLatencyMs]
  case buffer => exact record_buffer recorded sound.buffer
  case lower => exact between.1
  case upper => exact between.2

theorem observe_queue_growth_sound {rate : Float} (ordered : least ≤ most)
    (room : least.toNat + most.toNat < 2 ^ 64) (sound : Sound least most latest written policy)
    (observed : policy.observeQueueGrowth mode rate = some after) :
    Sound least most latest written after := by
  obtain ⟨pattern, threshold, limit, same, moved⟩ := observe_queue_growth_some observed
  have between := threshold_between ordered room sound moved
  subst same
  exact ⟨sound.minBatch, sound.maxBatch, sound.maxLatencyMs, sound.buffer, between.1, between.2⟩

/-- Nothing but the sum of the two sizes could stop a policy from adapting. -/
theorem adapt_to_pattern_returns (mode : OverflowMode) (policy : AutoPolicy)
    (room : mode = .wrapping ∨ policy.minBatch.toNat + policy.maxBatch.toNat < 2 ^ 64) :
    ∃ after, policy.adaptToPattern mode = some after := by
  have sizes : ∃ sum, addU64 mode policy.minBatch policy.maxBatch = some sum := by
    cases room with
    | inl wraps =>
        subst wraps
        exact ⟨_, rfl⟩
    | inr fits => exact ⟨_, add_u64_exact mode _ _ fits⟩
  rw [AutoPolicy.adaptToPattern]
  cases policy.observedPattern with
  | idle => exact ⟨_, rfl⟩
  | steady =>
      obtain ⟨sum, added⟩ := sizes
      simp only [added, bind, Option.bind_some]
      exact ⟨_, rfl⟩
  | bursty => exact ⟨_, rfl⟩
  | highLoad => exact ⟨_, rfl⟩

theorem perform_returns (mode : OverflowMode) (policy : AutoPolicy) (call : Call)
    (size : policy.arrivalTimes.length = 100) (inside : policy.arrivalIdx < 100)
    (room : mode = .wrapping ∨ policy.minBatch.toNat + policy.maxBatch.toNat < 2 ^ 64) :
    ∃ after, perform mode policy call = some after := by
  cases call with
  | observeQueueGrowth rate =>
      rw [perform, AutoPolicy.observeQueueGrowth]
      split_ifs
      · exact adapt_to_pattern_returns mode _ room
      · exact ⟨_, rfl⟩
  | recordArrival nowMs =>
      have stored : (policy.arrivalTimes.set policy.arrivalIdx nowMs).length = 100 := by
        rw [List.length_set, size]
      obtain ⟨value, measured⟩ := variance_returns mode nowMs stored
      rw [perform, AutoPolicy.recordArrival, if_pos (by rw [size]; exact inside),
        AutoPolicy.updatePattern]
      simp only [measured, bind, Option.bind_some]
      split_ifs
      · exact adapt_to_pattern_returns mode _ room
      · exact ⟨_, rfl⟩

theorem perform_buffer {call : Call}
    (buffer : Holds 100 0 policy.arrivalTimes policy.arrivalIdx written)
    (performed : perform mode policy call = some after) :
    Holds 100 0 after.arrivalTimes after.arrivalIdx (written ++ arrivals [call]) := by
  cases call with
  | recordArrival nowMs => exact record_buffer (record_arrival_some performed) buffer
  | observeQueueGrowth rate =>
      obtain ⟨pattern, threshold, limit, same, _⟩ := observe_queue_growth_some performed
      subst same
      change Holds 100 0 policy.arrivalTimes policy.arrivalIdx (written ++ [])
      rw [List.append_nil]
      exact buffer

theorem perform_sound {call : Call} (ordered : least ≤ most)
    (room : least.toNat + most.toNat < 2 ^ 64) (sound : Sound least most latest written policy)
    (performed : perform mode policy call = some after) :
    Sound least most latest (written ++ arrivals [call]) after := by
  cases call with
  | recordArrival nowMs =>
      exact record_arrival_sound ordered room sound (record_arrival_some performed)
  | observeQueueGrowth rate =>
      change Sound least most latest (written ++ []) after
      rw [List.append_nil]
      exact observe_queue_growth_sound ordered room sound performed

end Calls

/-! ## Runs -/

theorem arrivals_cons (call : Call) (rest : List Call) :
    arrivals (call :: rest) = arrivals [call] ++ arrivals rest := by
  cases call <;> rfl

section Runs

variable {least most latest : UInt64} {written : List UInt64}
variable {policy : AutoPolicy}

theorem perform_all_buffer {mode : OverflowMode} {calls : List Call} {after : AutoPolicy}
    (buffer : Holds 100 0 policy.arrivalTimes policy.arrivalIdx written)
    (performed : performAll mode policy calls = some after) :
    Holds 100 0 after.arrivalTimes after.arrivalIdx (written ++ arrivals calls) := by
  induction calls generalizing policy written with
  | nil =>
      cases performed
      rw [arrivals, List.filterMap_nil, List.append_nil]
      exact buffer
  | cons call rest ih =>
      simp only [performAll, List.foldlM_cons, bind, Option.bind_eq_some_iff] at performed
      obtain ⟨next, first, continued⟩ := performed
      rw [arrivals_cons, ← List.append_assoc]
      exact ih (perform_buffer buffer first) continued

theorem perform_all_sound (mode : OverflowMode) (calls : List Call) (ordered : least ≤ most)
    (room : least.toNat + most.toNat < 2 ^ 64) (sound : Sound least most latest written policy) :
    ∃ after, performAll mode policy calls = some after ∧
      Sound least most latest (written ++ arrivals calls) after := by
  induction calls generalizing policy written with
  | nil =>
      use policy
      rw [arrivals, List.filterMap_nil, List.append_nil]
      exact ⟨rfl, sound⟩
  | cons call rest ih =>
      have inside := sound_cursor sound
      obtain ⟨next, performed⟩ := perform_returns mode policy call sound.buffer.length inside
        (.inr (by rw [sound.minBatch, sound.maxBatch]; exact room))
      obtain ⟨after, continued, kept⟩ := ih (perform_sound ordered room sound performed)
      use after
      constructor
      · rw [performAll, List.foldlM_cons, performed]
        exact continued
      · rw [arrivals_cons, ← List.append_assoc]
        exact kept

theorem sound_seals (sound : Sound least most latest written policy) {queueLen : Nat}
    {oldestWaitMs : UInt64} (avgArrivalRate : Float) (nonempty : queueLen ≠ 0)
    (due : most.toNat ≤ queueLen ∨ latest ≤ oldestWaitMs) :
    PolicyEngine.shouldSeal policy queueLen oldestWaitMs avgArrivalRate = true := by
  have threshold := UInt64.le_iff_toNat_le.mp sound.upper
  have limit := sound.maxLatencyMs
  simp only [PolicyEngine.shouldSeal]
  rw [if_neg nonempty]
  split_ifs with reached waited late spiking
  · rfl
  · rfl
  · rfl
  · rfl
  · exfalso
    cases due with
    | inl full => exact reached (Nat.le_trans threshold full)
    | inr old => exact late (by rw [limit]; exact old)

end Runs

theorem empty_never_sealed (policy : AutoPolicy) (oldestWaitMs : UInt64)
    (avgArrivalRate : Float) :
    PolicyEngine.shouldSeal policy 0 oldestWaitMs avgArrivalRate = false := rfl

/-- After any calls the buffer holds the last hundred arrivals, the threshold is between
the two sizes, and a queue is sealed at the larger size and at the largest wait. -/
theorem every_call_sequence_sound (mode : OverflowMode) (least most latest : UInt64)
    (ordered : least ≤ most) (room : least.toNat + most.toNat < 2 ^ 64) (calls : List Call) :
    ∃ after, performAll mode (.new least most latest) calls = some after ∧
      after.arrivalTimes.length = 100 ∧ after.arrivalIdx < 100 ∧
      Holds 100 0 after.arrivalTimes after.arrivalIdx (arrivals calls) ∧
      least ≤ after.currentThreshold ∧ after.currentThreshold ≤ most ∧
      (∀ queueLen oldestWaitMs avgArrivalRate, queueLen ≠ 0 →
        most.toNat ≤ queueLen ∨ latest ≤ oldestWaitMs →
        PolicyEngine.shouldSeal after queueLen oldestWaitMs avgArrivalRate = true) ∧
      ∀ oldestWaitMs avgArrivalRate,
        PolicyEngine.shouldSeal after 0 oldestWaitMs avgArrivalRate = false := by
  have start : Sound least most latest [] (.new least most latest) := new_sound ordered
  obtain ⟨after, performed, sound⟩ := perform_all_sound mode calls ordered room start
  refine ⟨after, performed, sound.buffer.length, sound_cursor sound, sound.buffer, sound.lower, sound.upper,
    ?_, empty_never_sealed after⟩
  intro queueLen oldestWaitMs avgArrivalRate nonempty due
  exact sound_seals sound avgArrivalRate nonempty due

/-- Arrivals out of order and a spike; ten in the queue are sealed at once. -/
theorem spike_is_sealed :
    ∃ after, performAll .panicking (.new 2 10 1000)
        [.recordArrival 5, .observeQueueGrowth 3.0, .recordArrival 4, .recordArrival 9] =
          some after ∧
      after.arrivalTimes.take 3 = [5, 4, 9] ∧
      PolicyEngine.shouldSeal after 10 0 0.0 = true := by
  obtain ⟨after, performed, size, _, buffer, _, _, seals, _⟩ := every_call_sequence_sound
    .panicking 2 10 1000 (by decide) (by decide)
    [.recordArrival 5, .observeQueueGrowth 3.0, .recordArrival 4, .recordArrival 9]
  refine ⟨after, performed, ?_, seals 10 0 0.0 (by decide) (.inl (by decide))⟩
  have layout := holds_layout (by decide) buffer
  rw [layout]
  rfl

end CatalystSvm.PatternInvariants
