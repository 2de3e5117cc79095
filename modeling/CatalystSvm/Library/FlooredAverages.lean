import Mathlib.Algebra.Order.Ring.Nat
import Mathlib.Logic.Function.Iterate
import Mathlib.Tactic.Ring

/-!
# Weighted averages with truncating division

An average in natural numbers keeps one weight of its value and takes another of
the sample, and the division drops the remainder. Towards a smaller sample it
arrives; towards a larger one it stops as soon as the remainder swallows the step.
-/

namespace CatalystSvm.Library.FlooredAverages

set_option autoImplicit false

/-! ## Settling -/

section Settling

variable {State : Type*} {step : State → State} {start limit : State}

def Settles (step : State → State) (start limit : State) : Prop :=
  ∃ settled, ∀ count, settled ≤ count → step^[count] start = limit

theorem settles_of_fixed (fixed : step limit = limit) : Settles step limit limit := by
  use 0
  intro count _
  exact Function.iterate_fixed fixed count

theorem settles_of_step (later : Settles step (step start) limit) : Settles step start limit := by
  obtain ⟨settled, constant⟩ := later
  use settled + 1
  intro count reached
  obtain ⟨rest, rfl⟩ := Nat.exists_eq_add_of_le' reached
  rw [← Nat.add_assoc, Function.iterate_succ_apply]
  exact constant _ (Nat.le_add_left _ _)

theorem settles_of_descent (step : State → State) (Holds : State → Prop)
    (measured : State → Nat) (fixed : step limit = limit)
    (moves : ∀ state, Holds state → state ≠ limit →
      Holds (step state) ∧ measured (step state) < measured state)
    (initially : Holds start) : Settles step start limit := by
  induction size : measured start using Nat.strong_induction_on generalizing start with
  | _ bound ih =>
      by_cases arrived : start = limit
      · rw [arrived]
        exact settles_of_fixed fixed
      · obtain ⟨kept, smaller⟩ := moves start initially arrived
        rw [size] at smaller
        exact settles_of_step (ih _ smaller kept rfl)

end Settling

/-! ## The average -/

section Average

variable (keep take : Nat)

def flooredAverage (average sample : Nat) : Nat :=
  (keep * average + take * sample) / (keep + take)

/-- The largest shortfall that no longer moves the average. -/
def settlingGap : Nat := (keep + take - 1) / take

variable {keep take} {average sample target : Nat}

theorem average_monotone {otherAverage otherSample : Nat} (averages : average ≤ otherAverage)
    (samples : sample ≤ otherSample) :
    flooredAverage keep take average sample ≤
      flooredAverage keep take otherAverage otherSample := by
  apply Nat.div_le_div_right
  exact Nat.add_le_add (Nat.mul_le_mul_left keep averages) (Nat.mul_le_mul_left take samples)

theorem average_fixed (weighted : 0 < keep + take) :
    flooredAverage keep take target target = target := by
  rw [flooredAverage, ← Nat.add_mul, Nat.mul_div_cancel_left target weighted]

/-- The average never leaves the interval between its value and the sample. -/
theorem average_between (weighted : 0 < keep + take) (average sample : Nat) :
    min average sample ≤ flooredAverage keep take average sample ∧
      flooredAverage keep take average sample ≤ max average sample := by
  constructor
  · calc min average sample
        = flooredAverage keep take (min average sample) (min average sample) :=
          (average_fixed weighted).symm
      _ ≤ flooredAverage keep take average sample :=
          average_monotone (Nat.min_le_left _ _) (Nat.min_le_right _ _)
  · calc flooredAverage keep take average sample
        ≤ flooredAverage keep take (max average sample) (max average sample) :=
          average_monotone (Nat.le_max_left _ _) (Nat.le_max_right _ _)
      _ = max average sample := average_fixed weighted

theorem average_above (weighted : 0 < keep + take) (above : target ≤ average) :
    target ≤ flooredAverage keep take average target ∧
      flooredAverage keep take average target ≤ average := by
  have between := average_between weighted average target
  rw [Nat.min_eq_right above, Nat.max_eq_left above] at between
  exact between

theorem average_below (weighted : 0 < keep + take) (below : average ≤ target) :
    average ≤ flooredAverage keep take average target ∧
      flooredAverage keep take average target ≤ target := by
  have between := average_between weighted average target
  rw [Nat.min_eq_left below, Nat.max_eq_right below] at between
  exact between

theorem average_falls (takes : 0 < take) (above : target < average) :
    flooredAverage keep take average target < average := by
  rw [flooredAverage, Nat.div_lt_iff_lt_mul (by omega), Nat.mul_comm average, Nat.add_mul]
  exact Nat.add_lt_add_left (Nat.mul_lt_mul_of_pos_left above takes) _

/-- From below the step is the whole part of the taken share of the shortfall. -/
theorem average_of_shortfall (weighted : 0 < keep + take) (shortfall : Nat) :
    flooredAverage keep take average (average + shortfall) =
      average + take * shortfall / (keep + take) := by
  have shares : keep * average + take * (average + shortfall) =
      take * shortfall + (keep + take) * average := by
    ring
  rw [flooredAverage, shares, Nat.add_mul_div_left _ _ weighted, Nat.add_comm]

theorem gap_within (keep take : Nat) : take * settlingGap keep take ≤ keep + take - 1 := Nat.mul_div_le _ _

theorem gap_sticks (takes : 0 < take) {shortfall : Nat}
    (small : shortfall ≤ settlingGap keep take) :
    flooredAverage keep take average (average + shortfall) = average := by
  have bound : take * shortfall ≤ take * settlingGap keep take := Nat.mul_le_mul_left take small
  have whole := gap_within keep take
  have swallowed : take * shortfall < keep + take := by omega
  rw [average_of_shortfall (by omega), Nat.div_eq_of_lt swallowed, Nat.add_zero]

/-- A larger shortfall shrinks, and stops short of the gap or at it. -/
theorem gap_approached (keep : Nat) (takes : 0 < take) (excess : Nat) (positive : 0 < excess) :
    0 < take * (settlingGap keep take + excess) / (keep + take) ∧
      take * (settlingGap keep take + excess) / (keep + take) ≤ excess := by
  constructor
  · have next : keep + take - 1 < take * (settlingGap keep take + 1) :=
      Nat.lt_mul_div_succ (keep + take - 1) takes
    have grown : take * (settlingGap keep take + 1) ≤ take * (settlingGap keep take + excess) :=
      Nat.mul_le_mul_left take (by omega)
    exact Nat.div_pos (by omega) (by omega)
  · have whole := gap_within keep take
    have share : take * excess ≤ (keep + take) * excess :=
      Nat.mul_le_mul_right excess (Nat.le_add_left take keep)
    apply Nat.le_of_lt_succ
    rw [Nat.div_lt_iff_lt_mul (by omega), Nat.succ_mul, Nat.mul_add, Nat.mul_comm excess]
    omega

/-! ## Sequences of samples -/

def averageAll (keep take average : Nat) (samples : List Nat) : Nat :=
  samples.foldl (flooredAverage keep take) average

theorem average_all_bounded (weighted : 0 < keep + take) {bound : Nat} {samples : List Nat}
    (starts : average ≤ bound) (bounded : ∀ sample ∈ samples, sample ≤ bound) :
    averageAll keep take average samples ≤ bound := by
  induction samples generalizing average with
  | nil => exact starts
  | cons sample rest ih =>
      have next : flooredAverage keep take average sample ≤ bound :=
        le_trans (average_between weighted _ _).2 (Nat.max_le.mpr ⟨starts, bounded sample (by simp)⟩)
      exact ih next (fun later member => bounded later (by simp [member]))

theorem average_all_monotone {otherAverage : Nat} {samples otherSamples : List Nat}
    (averages : average ≤ otherAverage) (pointwise : List.Forall₂ (· ≤ ·) samples otherSamples) :
    averageAll keep take average samples ≤ averageAll keep take otherAverage otherSamples := by
  induction pointwise generalizing average otherAverage with
  | nil => exact averages
  | cons heads _ ih => exact ih (average_monotone averages heads)

theorem average_all_constant (count : Nat) :
    averageAll keep take average (List.replicate count target) =
      (fun average => flooredAverage keep take average target)^[count] average := by
  induction count generalizing average with
  | zero => rfl
  | succ count ih =>
      rw [List.replicate_succ, Function.iterate_succ_apply]
      exact ih

theorem constant_above (weighted : 0 < keep + take) (above : target ≤ average) (count : Nat) :
    target ≤ averageAll keep take average (List.replicate count target) := by
  induction count generalizing average with
  | zero => exact above
  | succ count ih => exact ih (average_above weighted above).1

theorem constant_below (weighted : 0 < keep + take) (below : average ≤ target) (count : Nat) :
    averageAll keep take average (List.replicate count target) ≤ target := by
  induction count generalizing average with
  | zero => exact below
  | succ count ih => exact ih (average_below weighted below).2

theorem constant_next (count : Nat) :
    averageAll keep take average (List.replicate (count + 1) target) =
      flooredAverage keep take (averageAll keep take average (List.replicate count target))
        target := by
  rw [averageAll, List.replicate_succ', List.foldl_append]
  rfl

/-! ## Constant samples -/

theorem settles_from_above (takes : 0 < take) (above : target ≤ average) :
    Settles (fun average => flooredAverage keep take average target) average target := by
  apply settles_of_descent (fun average => flooredAverage keep take average target)
    (fun average => target ≤ average) (fun average => average) (average_fixed (by omega))
  · intro state higher different
    have strictly : target < state := Nat.lt_of_le_of_ne higher (Ne.symm different)
    exact ⟨(average_above (by omega) higher).1, average_falls takes strictly⟩
  · exact above

/-- From below the average stops at the gap, or where it started inside it. -/
theorem settles_from_below (takes : 0 < take) (below : average ≤ target) :
    Settles (fun average => flooredAverage keep take average target) average
      (max average (target - settlingGap keep take)) := by
  by_cases close : target ≤ average + settlingGap keep take
  · obtain ⟨shortfall, rfl⟩ := Nat.exists_eq_add_of_le below
    rw [Nat.max_eq_left (by omega)]
    exact settles_of_fixed (gap_sticks takes (by omega))
  · rw [Nat.max_eq_right (by omega)]
    obtain ⟨level, rfl⟩ := Nat.exists_eq_add_of_le'
      (by omega : settlingGap keep take ≤ target)
    rw [Nat.add_sub_cancel]
    apply settles_of_descent
      (fun average => flooredAverage keep take average (level + settlingGap keep take))
      (fun average => average ≤ level) (fun average => level - average) (gap_sticks takes le_rfl)
    · intro state lower different
      obtain ⟨excess, rfl⟩ := Nat.exists_eq_add_of_le lower
      have approached := gap_approached keep takes excess (by omega)
      have moved : flooredAverage keep take state (state + excess + settlingGap keep take) =
          state + take * (settlingGap keep take + excess) / (keep + take) := by
        rw [Nat.add_assoc, Nat.add_comm excess, average_of_shortfall (by omega)]
      simp only [moved]
      omega
    · omega

theorem constant_samples_above (keep : Nat) (takes : 0 < take) (above : target ≤ average) :
    (∀ count, target ≤ averageAll keep take average (List.replicate (count + 1) target) ∧
      averageAll keep take average (List.replicate (count + 1) target) ≤
        averageAll keep take average (List.replicate count target)) ∧
    ∃ settled, ∀ count, settled ≤ count →
      averageAll keep take average (List.replicate count target) = target := by
  have weighted : 0 < keep + take := by omega
  constructor
  · intro count
    rw [constant_next]
    exact average_above weighted (constant_above weighted above count)
  · simp only [average_all_constant]
    exact settles_from_above takes above

theorem constant_samples_below (keep : Nat) (takes : 0 < take) (below : average ≤ target) :
    (∀ count, averageAll keep take average (List.replicate count target) ≤
        averageAll keep take average (List.replicate (count + 1) target) ∧
      averageAll keep take average (List.replicate (count + 1) target) ≤ target) ∧
    ∃ settled, ∀ count, settled ≤ count →
      averageAll keep take average (List.replicate count target) =
        max average (target - settlingGap keep take) := by
  have weighted : 0 < keep + take := by omega
  constructor
  · intro count
    rw [constant_next]
    exact average_below weighted (constant_below weighted below count)
  · simp only [average_all_constant]
    exact settles_from_below takes below

end Average

end CatalystSvm.Library.FlooredAverages
