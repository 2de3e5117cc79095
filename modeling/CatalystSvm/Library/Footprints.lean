import Mathlib.Data.List.Basic

/-!
# Steps that report their footprint

A step on a state made of cells may read and write only the cells that it
reports. Then it does the same on every state that agrees on the cells read, and
two steps whose footprints are apart can be exchanged.
-/

namespace CatalystSvm.Library.Footprints

set_option autoImplicit false

variable {State Key Cell Report : Type*}

/-- `look` shows the cells of a state. -/
structure Footprint (look : State → Key → Cell) (reads writes : Report → List Key)
    (step : State → Option (State × Report)) : Prop where
  frame : ∀ state next report, step state = some (next, report) →
    ∀ key, key ∉ writes report → look next key = look state key
  local_reads : ∀ state next report other, step state = some (next, report) →
    (∀ key ∈ reads report, look other key = look state key) →
    ∃ otherNext, step other = some (otherNext, report) ∧
      ∀ key ∈ writes report, look otherNext key = look next key

def Apart (reads writes : Report → List Key) (first second : Report) : Prop :=
  ∀ key ∈ writes first, key ∉ reads second ∧ key ∉ writes second

instance [DecidableEq Key] (reads writes : Report → List Key) (first second : Report) :
    Decidable (Apart reads writes first second) :=
  inferInstanceAs (Decidable (∀ key ∈ writes first, key ∉ reads second ∧ key ∉ writes second))

variable {look : State → Key → Cell} {reads writes : Report → List Key}
variable {stepFirst stepSecond : State → Option (State × Report)}
variable {state middle final : State} {first second : Report}

/-- In the other order both steps report the same and end in the same cells. -/
theorem apart_steps_exchange (leading : Footprint look reads writes stepFirst)
    (following : Footprint look reads writes stepSecond)
    (ranFirst : stepFirst state = some (middle, first))
    (ranSecond : stepSecond middle = some (final, second))
    (forward : Apart reads writes first second) (backward : Apart reads writes second first) :
    ∃ other last, stepSecond state = some (other, second) ∧
      stepFirst other = some (last, first) ∧ ∀ key, look last key = look final key := by
  have unread : ∀ key ∈ reads second, look state key = look middle key := by
    intro key member
    refine (leading.frame _ _ _ ranFirst key ?_).symm
    intro written
    exact (forward key written).1 member
  rcases following.local_reads _ _ _ state ranSecond unread with ⟨other, ranOther, written⟩
  have untouched : ∀ key ∈ reads first, look other key = look state key := by
    intro key member
    refine following.frame _ _ _ ranOther key ?_
    intro touched
    exact (backward key touched).1 member
  rcases leading.local_reads _ _ _ other ranFirst untouched with ⟨last, ranLast, rewritten⟩
  refine ⟨other, last, ranOther, ranLast, ?_⟩
  intro key
  by_cases byFirst : key ∈ writes first
  · rw [rewritten key byFirst]
    exact (following.frame _ _ _ ranSecond key (forward key byFirst).2).symm
  · rw [leading.frame _ _ _ ranLast key byFirst]
    by_cases bySecond : key ∈ writes second
    · exact written key bySecond
    · rw [following.frame _ _ _ ranOther key bySecond,
        following.frame _ _ _ ranSecond key bySecond]
      exact (leading.frame _ _ _ ranFirst key byFirst).symm

theorem apart_steps_commute (leading : Footprint look reads writes stepFirst)
    (following : Footprint look reads writes stepSecond)
    (extensional : ∀ left right : State, (∀ key, look left key = look right key) → left = right)
    (ranFirst : stepFirst state = some (middle, first))
    (ranSecond : stepSecond middle = some (final, second))
    (forward : Apart reads writes first second) (backward : Apart reads writes second first) :
    ∃ other, stepSecond state = some (other, second) ∧ stepFirst other = some (final, first) := by
  rcases apart_steps_exchange leading following ranFirst ranSecond forward backward with
    ⟨other, last, ranOther, ranLast, cells⟩
  rw [extensional last final cells] at ranLast
  exact ⟨other, ranOther, ranLast⟩

end CatalystSvm.Library.Footprints
