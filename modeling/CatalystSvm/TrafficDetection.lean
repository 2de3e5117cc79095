import CatalystSvm.PatternInvariants

/-!
# What the buffer shows of the traffic

The pattern is read from one hundred slots in storage order. More than a hundred
arrivals in a second do not fit into them, and after the cursor has gone round the
newest arrivals stand before the older ones: the intervals are then those of a
rotated sequence.
-/

namespace CatalystSvm.TrafficDetection

open CatalystSvm.MachineArithmetic CatalystSvm.TrafficPatterns CatalystSvm.PatternInvariants
open CatalystSvm.Library.RingBuffer CatalystSvm.Library.Words

set_option autoImplicit false

/-- `time` lies in `(nowMs - span, nowMs]`. -/
def inWindow (span : Nat) (nowMs time : UInt64) : Bool :=
  decide (nowMs.toNat < time.toNat + span) && decide (time ≤ nowMs)

def recordAll (mode : OverflowMode) (policy : AutoPolicy) (written : List UInt64) :
    Option AutoPolicy :=
  performAll mode policy (written.map .recordArrival)

theorem arrivals_of_records (written : List UInt64) :
    arrivals (written.map .recordArrival) = written := by
  induction written with
  | nil => rfl
  | cons nowMs rest ih =>
      rw [List.map_cons, arrivals_cons, ih]
      rfl

section Recording

variable {mode : OverflowMode} {least most latest nowMs : UInt64} {earlier : List UInt64}
variable {after : AutoPolicy}

theorem record_all_buffer
    (recorded : recordAll mode (.new least most latest) earlier = some after) :
    Holds 100 0 after.arrivalTimes after.arrivalIdx earlier := by
  have buffer := perform_all_buffer (holds_nothing 100 0) recorded
  rw [arrivals_of_records, List.nil_append] at buffer
  exact buffer

theorem record_all_last
    (recorded : recordAll mode (.new least most latest) (earlier ++ [nowMs]) = some after) :
    ∃ before, recordAll mode (.new least most latest) earlier = some before ∧
      Recorded mode before after nowMs := by
  simp only [recordAll, performAll, List.map_append, List.foldlM_append, bind,
    Option.bind_eq_some_iff, List.map_cons, List.map_nil, List.foldlM_cons, List.foldlM_nil,
    pure, Option.some.injEq] at recorded
  obtain ⟨before, first, last, performed, same⟩ := recorded
  subst same
  exact ⟨before, first, record_arrival_some performed⟩

/-! ## High load -/

/-- The policy reports high load, and uses the larger size, exactly when more than a hundred
arrivals fell into the last second. -/
def DetectsHighLoad (after : AutoPolicy) (written : List UInt64) (nowMs : UInt64) : Prop :=
  (after.currentPattern = .highLoad ↔ 100 < written.countP (inWindow 1000 nowMs)) ∧
    (after.currentPattern = .highLoad → after.currentThreshold = after.maxBatch)

theorem classify_within_capacity {count : Nat} (variance : Float) (small : count ≤ 100) :
    classify count variance ≠ .highLoad := by
  rw [classify]
  split_ifs with none many spiking
  · decide
  · omega
  · decide
  · decide

theorem never_high_load
    (recorded : recordAll mode (.new least most latest) (earlier ++ [nowMs]) = some after) :
    after.currentPattern ≠ .highLoad := by
  obtain ⟨before, first, last⟩ := record_all_last recorded
  have size := (record_all_buffer recorded).length
  have few := recent_times_length 1000 nowMs after.arrivalTimes
  rw [size] at few
  obtain ⟨variance, pattern⟩ := last.pattern
  rw [AutoPolicy.currentPattern, pattern]
  exact classify_within_capacity variance few

/-- High load is told apart from no high load only where there is none. -/
theorem high_load_detected_iff
    (recorded : recordAll mode (.new least most latest) (earlier ++ [nowMs]) = some after) :
    DetectsHighLoad after (earlier ++ [nowMs]) nowMs ↔
      (earlier ++ [nowMs]).countP (inWindow 1000 nowMs) ≤ 100 := by
  have never := never_high_load recorded
  constructor
  · intro detects
    by_contra many
    exact never (detects.1.mpr (Nat.not_le.mp many))
  · intro few
    constructor
    · exact iff_of_false never (Nat.not_lt.mpr few)
    · intro loaded
      exact absurd loaded never

end Recording

theorem record_all_returns (mode : OverflowMode) {least most : UInt64} (latest : UInt64)
    (written : List UInt64) (ordered : least ≤ most)
    (room : least.toNat + most.toNat < 2 ^ 64) :
    ∃ after, recordAll mode (.new least most latest) written = some after := by
  have start : Sound least most latest [] (.new least most latest) := new_sound ordered
  obtain ⟨after, performed, _⟩ :=
    perform_all_sound mode (written.map .recordArrival) ordered room start
  exact ⟨after, performed⟩

theorem two_arrivals_detected :
    ∃ after, recordAll .panicking (.new 1 10 1000) ([7] ++ [9]) = some after ∧
      DetectsHighLoad after ([7] ++ [9]) 9 := by
  have ordered : (1 : UInt64) ≤ 10 := by decide
  obtain ⟨after, recorded⟩ := record_all_returns .panicking 1000 ([7] ++ [9]) ordered (by decide)
  exact ⟨after, recorded, (high_load_detected_iff recorded).mpr (by decide)⟩

/-- A hundred and one arrivals in one millisecond, and the policy does not see high load. -/
theorem crowded_millisecond_missed :
    ∃ after, recordAll .wrapping (.new 1 10 1000) (List.replicate 100 1 ++ [1]) = some after ∧
      (∀ time ∈ List.replicate 100 (1 : UInt64) ++ [1], 0 < time) ∧
      (List.replicate 100 (1 : UInt64) ++ [1]).Pairwise (· ≤ ·) ∧
      ¬DetectsHighLoad after (List.replicate 100 1 ++ [1]) 1 := by
  have ordered : (1 : UInt64) ≤ 10 := by decide
  obtain ⟨after, recorded⟩ :=
    record_all_returns .wrapping 1000 (List.replicate 100 1 ++ [1]) ordered (by decide)
  have alike : ∀ time ∈ List.replicate 100 (1 : UInt64) ++ [1], time = 1 := by simp
  refine ⟨after, recorded, ?_, by decide +kernel, ?_⟩
  · intro time member
    rw [alike time member]
    decide
  intro detects
  have many : 100 < (List.replicate 100 (1 : UInt64) ++ [1]).countP (inWindow 1000 1) := by
    decide +kernel
  exact never_high_load recorded (detects.1.mpr many)

/-! ## The intervals -/

def gaps (times : List UInt64) : List UInt64 :=
  neighbours (fun first second => second - first) times

/-- The real gaps among the last hundred arrivals of five seconds. -/
def realGaps (written : List UInt64) (nowMs : UInt64) : List UInt64 :=
  gaps ((lastItems 100 written).filter (inWindow 5000 nowMs))

def MeasuresGaps (after : AutoPolicy) (written : List UInt64) (nowMs : UInt64) : Prop :=
  intervals after.arrivalTimes nowMs = realGaps written nowMs

/-- The arrivals of the round before that still fall into the window. -/
def olderRecent (written : List UInt64) (nowMs : UInt64) : List UInt64 :=
  (older 100 written).filter (inWindow 5000 nowMs)

/-- The cursor stands at the first slot, or only arrivals of this round are recent, or the
rotation cannot be seen: no time passed at the cursor, and the gaps before and after it,
each closed by a zero, repeat one block. -/
def RotationHidden (written : List UInt64) (nowMs : UInt64) : Prop :=
  newest 100 written = [] ∨ olderRecent written nowMs = [] ∨
    ((olderRecent written nowMs).getLast? = (newest 100 written).head? ∧
      CommonBlock (gaps (newest 100 written) ++ [0]) (gaps (olderRecent written nowMs) ++ [0]))

section Intervals

variable {written : List UInt64} {nowMs : UInt64}

theorem in_window_eq (span : UInt64) {time : UInt64} (positive : 0 < time) :
    (decide (saturatingSub nowMs span < time) && decide (time ≤ nowMs)) =
      inWindow span.toNat nowMs time := by
  have same : saturatingSub nowMs span < time ↔ nowMs.toNat < time.toNat + span.toNat := by
    rw [UInt64.lt_iff_toNat_lt, UInt64.toNat_zero] at positive
    rw [UInt64.lt_iff_toNat_lt, saturating_sub_to_nat]
    omega
  rw [inWindow, decide_eq_decide.mpr same]

theorem recent_times_eq {times : List UInt64} (positive : ∀ time ∈ times, 0 < time) :
    recentTimes 5000 times nowMs = times.filter (inWindow 5000 nowMs) := by
  apply List.filter_congr
  intro time member
  exact in_window_eq 5000 (positive time member)

theorem fresh_slots_not_recent (count : Nat) :
    recentTimes 5000 (List.replicate count 0) nowMs = [] := by
  rw [recentTimes, List.filter_eq_nil_iff]
  intro time member
  rw [List.eq_of_mem_replicate member, Bool.and_eq_true, decide_eq_true_iff]
  intro recent
  exact absurd recent.1 UInt64.not_lt_zero

/-- The stored arrivals of five seconds, in storage order. -/
theorem recent_times_layout {slots : List UInt64} {cursor : Nat}
    (buffer : Holds 100 0 slots cursor written) (positive : ∀ time ∈ written, 0 < time) :
    recentTimes 5000 slots nowMs =
      (newest 100 written).filter (inWindow 5000 nowMs) ++ olderRecent written nowMs := by
  have first : ∀ time ∈ newest 100 written, 0 < time :=
    fun time member => positive time (List.mem_of_mem_drop member)
  have second : ∀ time ∈ older 100 written, 0 < time :=
    fun time member => positive time (List.mem_of_mem_drop (List.mem_of_mem_take member))
  have parts (left right : List UInt64) : recentTimes 5000 (left ++ right) nowMs =
      recentTimes 5000 left nowMs ++ recentTimes 5000 right nowMs := List.filter_append left right
  rw [holds_layout (by decide) buffer, parts, parts, fresh_slots_not_recent, List.append_nil,
    recent_times_eq first, recent_times_eq second, olderRecent]

theorem intervals_of_sorted {times : List UInt64} (sorted : times.Pairwise (· ≤ ·)) :
    neighbours (fun first second => saturatingSub second first) times = gaps times := by
  apply neighbours_congr sorted
  intro first second ordered
  rw [saturatingSub, if_pos ordered]

/-- The arrivals as they come: after zero, in order, and none of them later than now. -/
structure InOrder (written : List UInt64) (nowMs : UInt64) : Prop where
  positive : ∀ time ∈ written, 0 < time
  sorted : written.Pairwise (· ≤ ·)
  past : ∀ time ∈ written, time ≤ nowMs

theorem held_sorted (inOrder : InOrder written nowMs) :
    (older 100 written ++ newest 100 written).Pairwise (· ≤ ·) := by
  rw [older_append_newest (by decide)]
  exact inOrder.sorted.sublist (List.drop_sublist _ _)

theorem older_recent_sorted (inOrder : InOrder written nowMs) :
    (olderRecent written nowMs).Pairwise (· ≤ ·) :=
  (List.pairwise_append.mp (held_sorted inOrder)).1.sublist List.filter_sublist

theorem newest_recent (inOrder : InOrder written nowMs) (recent : olderRecent written nowMs ≠ []) :
    (newest 100 written).filter (inWindow 5000 nowMs) = newest 100 written := by
  obtain ⟨earlier, rest, listed⟩ := List.exists_cons_of_ne_nil recent
  have member : earlier ∈ olderRecent written nowMs := by
    rw [listed]
    exact List.mem_cons_self
  obtain ⟨held, inside⟩ := List.mem_filter.mp member
  rw [inWindow, Bool.and_eq_true, decide_eq_true_iff] at inside
  rw [List.filter_eq_self]
  intro time written
  have later := (List.pairwise_append.mp (held_sorted inOrder)).2.2 earlier held time written
  have bound := inOrder.past time (List.mem_of_mem_drop written)
  rw [UInt64.le_iff_toNat_le] at later
  rw [inWindow, Bool.and_eq_true, decide_eq_true_iff, decide_eq_true_iff]
  exact ⟨by omega, bound⟩

theorem real_gaps_eq (written : List UInt64) (nowMs : UInt64) :
    realGaps written nowMs = gaps (olderRecent written nowMs ++
      (newest 100 written).filter (inWindow 5000 nowMs)) := by
  rw [realGaps, ← older_append_newest (by decide), List.filter_append, olderRecent]

theorem rotated_intervals (inOrder : InOrder written nowMs) (fresh : newest 100 written ≠ [])
    (recent : olderRecent written nowMs ≠ []) :
    neighbours (fun first second => saturatingSub second first)
        (newest 100 written ++ olderRecent written nowMs) =
      gaps (newest 100 written) ++ 0 :: gaps (olderRecent written nowMs) := by
  have sorted := List.pairwise_append.mp (held_sorted inOrder)
  have last := List.getLast_mem fresh
  have first := (List.mem_filter.mp (List.head_mem recent)).1
  have back := sorted.2.2 _ first _ last
  have zero : saturatingSub ((olderRecent written nowMs).head recent)
      ((newest 100 written).getLast fresh) = 0 := by
    rw [← UInt64.toNat_inj, saturating_sub_to_nat, UInt64.toNat_zero]
    rw [UInt64.le_iff_toNat_le] at back
    omega
  rw [neighbours_append fresh recent, zero, intervals_of_sorted sorted.2.1,
    intervals_of_sorted (older_recent_sorted inOrder)]

theorem rotated_intervals_iff (inOrder : InOrder written nowMs)
    (fresh : newest 100 written ≠ []) (recent : olderRecent written nowMs ≠ []) :
    neighbours (fun first second => saturatingSub second first)
        (newest 100 written ++ olderRecent written nowMs) =
      gaps (olderRecent written nowMs ++ newest 100 written) ↔
    (olderRecent written nowMs).getLast? = (newest 100 written).head? ∧
      CommonBlock (gaps (newest 100 written) ++ [0])
        (gaps (olderRecent written nowMs) ++ [0]) := by
  have pause : (0 : UInt64) = (newest 100 written).head fresh -
      (olderRecent written nowMs).getLast recent ↔
        (olderRecent written nowMs).getLast? = (newest 100 written).head? := by
    rw [List.getLast?_eq_some_getLast recent, List.head?_eq_some_head fresh, Option.some.injEq,
      eq_comm, UInt64.sub_eq_iff_eq_add, UInt64.zero_add, eq_comm]
  rw [rotated_intervals inOrder fresh recent, gaps, gaps, gaps, neighbours_append recent fresh,
    exchanged_around_letter_iff, pause]

theorem intervals_real_iff {slots : List UInt64} {cursor : Nat} (inOrder : InOrder written nowMs)
    (buffer : Holds 100 0 slots cursor written) :
    intervals slots nowMs = realGaps written nowMs ↔ RotationHidden written nowMs := by
  rw [intervals, recent_times_layout buffer inOrder.positive, real_gaps_eq, RotationHidden]
  by_cases fresh : newest 100 written = []
  · rw [fresh, List.filter_nil, List.nil_append, List.append_nil]
    exact iff_of_true (intervals_of_sorted (older_recent_sorted inOrder)) (.inl rfl)
  · by_cases recent : olderRecent written nowMs = []
    · have sorted := (List.pairwise_append.mp (held_sorted inOrder)).2.1
      rw [recent, List.nil_append, List.append_nil]
      exact iff_of_true (intervals_of_sorted (sorted.sublist List.filter_sublist))
        (.inr (.inl rfl))
    · rw [newest_recent inOrder recent, rotated_intervals_iff inOrder fresh recent]
      simp only [fresh, recent, false_or]

end Intervals

/-- The intervals are the real gaps exactly when the rotation of the buffer is hidden. -/
theorem gaps_measured_iff {mode : OverflowMode} {least most latest nowMs : UInt64}
    {earlier : List UInt64} {after : AutoPolicy}
    (positive : ∀ time ∈ earlier ++ [nowMs], 0 < time)
    (sorted : (earlier ++ [nowMs]).Pairwise (· ≤ ·))
    (recorded : recordAll mode (.new least most latest) (earlier ++ [nowMs]) = some after) :
    MeasuresGaps after (earlier ++ [nowMs]) nowMs ↔ RotationHidden (earlier ++ [nowMs]) nowMs := by
  have past : ∀ time ∈ earlier ++ [nowMs], time ≤ nowMs := by
    intro time member
    rw [List.mem_append, List.mem_singleton] at member
    cases member with
    | inl before => exact (List.pairwise_append.mp sorted).2.2 time before nowMs (by simp)
    | inr own =>
        rw [own]
        exact UInt64.le_refl nowMs
  exact intervals_real_iff ⟨positive, sorted, past⟩ (record_all_buffer recorded)

theorem two_arrivals_measured :
    ∃ after, recordAll .panicking (.new 1 10 1000) ([7] ++ [9]) = some after ∧
      MeasuresGaps after ([7] ++ [9]) 9 := by
  have ordered : (1 : UInt64) ≤ 10 := by decide
  obtain ⟨after, recorded⟩ := record_all_returns .panicking 1000 ([7] ++ [9]) ordered (by decide)
  have positive : ∀ time ∈ [7] ++ [(9 : UInt64)], 0 < time := by simp
  have sorted : ([7] ++ [(9 : UInt64)]).Pairwise (· ≤ ·) := by simp
  have few : olderRecent ([7] ++ [9]) 9 = [] := rfl
  exact ⟨after, recorded, (gaps_measured_iff positive sorted recorded).mpr (.inr (.inl few))⟩

def everyMillisecond : List UInt64 := (List.range 100).map fun place => UInt64.ofNat (place + 1)

/-- One arrival a millisecond: the hundred and first overwrites the first, and the code puts
its interval of zero before ninety-eight of one millisecond. -/
theorem steady_arrivals_mismeasured :
    ∃ after, recordAll .wrapping (.new 1 10 1000) (everyMillisecond ++ [101]) = some after ∧
      (∀ time ∈ everyMillisecond ++ [101], 0 < time) ∧
      (everyMillisecond ++ [101]).Pairwise (· ≤ ·) ∧
      ¬MeasuresGaps after (everyMillisecond ++ [101]) 101 := by
  have ordered : (1 : UInt64) ≤ 10 := by decide
  obtain ⟨after, recorded⟩ :=
    record_all_returns .wrapping 1000 (everyMillisecond ++ [101]) ordered (by decide)
  have positive : (everyMillisecond ++ [101]).all (0 < ·) = true := by decide +kernel
  refine ⟨after, recorded, ?_, by decide +kernel, ?_⟩
  · intro time member
    exact decide_eq_true_iff.mp (List.all_eq_true.mp positive time member)
  rw [MeasuresGaps, holds_layout (by decide) (record_all_buffer recorded)]
  decide +kernel

end CatalystSvm.TrafficDetection
