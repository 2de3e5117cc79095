import Mathlib.Data.List.Perm.Basic
import Mathlib.Data.List.Basic
import Mathlib.Logic.Relation
import CatalystSvm.Library.Footprints
import CatalystSvm.Library.StepFold

/-!
# Reordering logs of events

Two events may depend on each other. A log may be rearranged by exchanging
neighbours that do not, and what can be reached in this way is described without
any exchange: the same events, every two dependent ones in the same order. Logs of
steps that report their footprints can be replayed in every such order.
-/

namespace CatalystSvm.Library.Reorderings

open CatalystSvm.Library.Footprints CatalystSvm.Library.StepFold

set_option autoImplicit false

section Logs

variable {Event : Type*} {dependent : Event → Event → Prop}

/-- Two neighbours that do not depend on each other change places. -/
inductive Exchange (dependent : Event → Event → Prop) : List Event → List Event → Prop where
  | swap {before after : List Event} {first second : Event} (free : ¬dependent first second) :
      Exchange dependent (before ++ first :: second :: after) (before ++ second :: first :: after)

def Reordering (dependent : Event → Event → Prop) : List Event → List Event → Prop :=
  Relation.ReflTransGen (Exchange dependent)

def between [DecidableEq Event] (first second : Event) (log : List Event) : List Event :=
  log.filter fun event => event = first ∨ event = second

structure SameOrder [DecidableEq Event] (dependent : Event → Event → Prop)
    (left right : List Event) : Prop where
  perm : left.Perm right
  order : ∀ first second, dependent first second →
    between first second left = between first second right

theorem reordering_cons {left right : List Event} (event : Event)
    (reordered : Reordering dependent left right) :
    Reordering dependent (event :: left) (event :: right) := by
  induction reordered with
  | refl => exact .refl
  | tail _ exchanged ih =>
      cases exchanged with
      | @swap before after first second free =>
          exact ih.tail (@Exchange.swap _ _ (event :: before) after first second free)

theorem move_behind {event : Event} {passed : List Event} (rest : List Event)
    (free : ∀ other ∈ passed, ¬dependent event other) :
    Reordering dependent (event :: (passed ++ rest)) (passed ++ event :: rest) := by
  induction passed with
  | nil => exact .refl
  | cons other passed ih =>
      have first : Exchange dependent ([] ++ event :: other :: (passed ++ rest))
          ([] ++ other :: event :: (passed ++ rest)) := .swap (free other (by simp))
      have later := ih fun another member => free another (by simp [member])
      exact .head first (reordering_cons other later)

section Projections

variable [DecidableEq Event]

theorem same_order_refl (log : List Event) : SameOrder dependent log log :=
  ⟨.refl log, fun _ _ _ => rfl⟩

theorem same_order_symm {left right : List Event} (same : SameOrder dependent left right) :
    SameOrder dependent right left :=
  ⟨same.perm.symm, fun first second depends => (same.order first second depends).symm⟩

theorem same_order_trans {left middle right : List Event}
    (earlier : SameOrder dependent left middle) (later : SameOrder dependent middle right) :
    SameOrder dependent left right where
  perm := earlier.perm.trans later.perm
  order := by
    intro first second depends
    rw [earlier.order first second depends, later.order first second depends]

theorem exchange_same_order (symmetric : ∀ first second, dependent first second →
    dependent second first) {left right : List Event} (exchanged : Exchange dependent left right) :
    SameOrder dependent left right := by
  cases exchanged with
  | @swap before after first second free =>
      constructor
      · exact (List.Perm.swap second first after).append_left before
      · intro one other depends
        have apart : ¬((first = one ∨ first = other) ∧ (second = one ∨ second = other)) ∨
            first = second := by
          by_contra both
          rw [not_or, not_not] at both
          obtain ⟨⟨left, right⟩, different⟩ := both
          rcases left with rfl | rfl
          · rcases right with rfl | rfl
            · exact different rfl
            · exact free depends
          · rcases right with rfl | rfl
            · exact free (symmetric _ _ depends)
            · exact different rfl
        rcases apart with outside | same
        · rw [not_and_or] at outside
          rcases outside with outside | outside
          · simp [between, List.filter_append, List.filter_cons, outside]
          · simp [between, List.filter_append, List.filter_cons, outside]
        · rw [same]

theorem reordering_same_order (symmetric : ∀ first second, dependent first second →
    dependent second first) {left right : List Event}
    (reordered : Reordering dependent left right) : SameOrder dependent left right := by
  induction reordered with
  | refl => exact same_order_refl left
  | tail _ exchanged ih => exact same_order_trans ih (exchange_same_order symmetric exchanged)

theorem overtaken_free {event : Event} {left before after : List Event}
    (same : SameOrder dependent (event :: left) (before ++ event :: after))
    (fresh : event ∉ before) : ∀ other ∈ before, ¬dependent event other := by
  intro other member depends
  have order := same.order event other depends
  have starts : (between event other (before ++ event :: after)).head? = some event := by
    rw [← order]
    simp [between]
  -- The log on the right starts with a `before` event that is `event` or `other`.
  have found : ∃ earliest ∈ before,
      (between event other (before ++ event :: after)).head? = some earliest := by
    have kept : between event other before ≠ [] := by
      intro none
      have inside : other ∈ between event other before := by simp [between, member]
      rw [none] at inside
      cases inside
    obtain ⟨earliest, others, split⟩ := List.exists_cons_of_ne_nil kept
    refine ⟨earliest, ?_, ?_⟩
    · have inside : earliest ∈ between event other before := by simp [split]
      exact List.mem_of_mem_filter inside
    · rw [between, List.filter_append]
      change (between event other before ++ _).head? = _
      rw [split]
      rfl
  obtain ⟨earliest, inside, heads⟩ := found
  cases starts.symm.trans heads
  exact fresh inside

theorem same_order_cons_inv {event : Event} {left right : List Event}
    (same : SameOrder dependent (event :: left) (event :: right)) :
    SameOrder dependent left right where
  perm := same.perm.cons_inv
  order := by
    intro first second depends
    have whole := same.order first second depends
    by_cases shown : event = first ∨ event = second
    · simpa [between, shown] using whole
    · simpa [between, shown] using whole

theorem reordering_of_same_order (symmetric : ∀ first second, dependent first second →
    dependent second first) {left right : List Event} (same : SameOrder dependent left right) :
    Reordering dependent left right := by
  induction left generalizing right with
  | nil =>
      rw [List.nil_perm.mp same.perm]
      exact .refl
  | cons event left ih =>
      have member : event ∈ right := same.perm.subset (by simp)
      obtain ⟨before, after, rfl, fresh⟩ := List.eq_append_cons_of_mem member
      have free := overtaken_free same fresh
      have moved := move_behind after free
      have front : SameOrder dependent (event :: left) (event :: (before ++ after)) :=
        same_order_trans same (same_order_symm (reordering_same_order symmetric moved))
      exact (reordering_cons event (ih (same_order_cons_inv front))).trans moved

/-- Exchanging independent neighbours reaches exactly the logs that keep dependent
events in order. -/
theorem reordering_iff_same_order (symmetric : ∀ first second, dependent first second →
    dependent second first) {left right : List Event} :
    Reordering dependent left right ↔ SameOrder dependent left right :=
  ⟨reordering_same_order symmetric, reordering_of_same_order symmetric⟩

end Projections

end Logs

/-! ## Replaying a log -/

section Replay

variable {State Key Cell Input Event : Type*}
variable {look : State → Key → Cell} {reads writes : Event → List Key}
variable {step : State → Input → Option (State × Event)} {source : Event → Input}

/-- The inputs of these events, run in this order, give these events again. -/
def Replays (step : State → Input → Option (State × Event)) (source : Event → Input)
    (state : State) (events : List Event) (final : State) : Prop :=
  runSteps step state (events.map source) = some (final, events)

def Conflict (reads writes : Event → List Key) (first second : Event) : Prop :=
  ¬(Apart reads writes first second ∧ Apart reads writes second first)

instance [DecidableEq Key] (first second : Event) :
    Decidable (Conflict reads writes first second) :=
  inferInstanceAs (Decidable (¬(_ ∧ _)))

theorem conflict_symmetric (first second : Event) (conflict : Conflict reads writes first second) :
    Conflict reads writes second first :=
  fun apart => conflict ⟨apart.2, apart.1⟩

theorem replays_append_iff {state final : State} {left right : List Event} :
    Replays step source state (left ++ right) final ↔
      ∃ middle, Replays step source state left middle ∧ Replays step source middle right final := by
  unfold Replays
  rw [List.map_append, run_steps_append]
  constructor
  · intro ran
    simp only [Option.bind_eq_some_iff, Option.map_eq_some_iff, Prod.mk.injEq] at ran
    obtain ⟨⟨middle, earlier⟩, ranLeft, ⟨last, later⟩, ranRight, rfl, joined⟩ := ran
    have lengths := run_steps_outputs_length ranLeft
    rw [List.length_map] at lengths
    obtain ⟨rfl, rfl⟩ := List.append_inj joined lengths
    exact ⟨middle, ranLeft, ranRight⟩
  · intro parts
    obtain ⟨middle, ranLeft, ranRight⟩ := parts
    simp [ranLeft, ranRight]

theorem replays_cons_iff {state final : State} {event : Event} {rest : List Event} :
    Replays step source state (event :: rest) final ↔
      ∃ next, step state (source event) = some (next, event) ∧
        Replays step source next rest final := by
  unfold Replays
  constructor
  · intro ran
    obtain ⟨next, output, others, stepped, continued, same⟩ := run_steps_cons_some ran
    rw [List.cons.injEq] at same
    obtain ⟨rfl, rfl⟩ := same
    exact ⟨next, stepped, continued⟩
  · intro parts
    obtain ⟨next, stepped, continued⟩ := parts
    exact run_steps_cons_of stepped continued

variable (footprints : ∀ input, Footprint look reads writes fun state => step state input)
variable (extensional : ∀ left right : State, (∀ key, look left key = look right key) →
  left = right)

include footprints extensional

theorem exchange_replays {state final : State} {left right : List Event}
    (exchanged : Exchange (Conflict reads writes) left right)
    (replays : Replays step source state left final) : Replays step source state right final := by
  cases exchanged with
  | @swap before after first second free =>
      rw [Conflict, not_not] at free
      obtain ⟨start, earlier, replays⟩ := replays_append_iff.mp replays
      obtain ⟨middle, ranFirst, replays⟩ := replays_cons_iff.mp replays
      obtain ⟨after, ranSecond, later⟩ := replays_cons_iff.mp replays
      rcases apart_steps_commute (footprints (source first)) (footprints (source second))
        extensional ranFirst ranSecond free.1 free.2 with ⟨other, again, swapped⟩
      apply replays_append_iff.mpr
      refine ⟨start, earlier, ?_⟩
      apply replays_cons_iff.mpr
      refine ⟨other, again, ?_⟩
      apply replays_cons_iff.mpr
      exact ⟨after, swapped, later⟩

theorem reordering_replays {state final : State} {left right : List Event}
    (reordered : Reordering (Conflict reads writes) left right)
    (replays : Replays step source state left final) : Replays step source state right final := by
  induction reordered with
  | refl => exact replays
  | tail _ exchanged ih => exact exchange_replays footprints extensional exchanged ih

/-- A log in which conflicting events keep their order is replayed event by event and
ends in the same state. -/
theorem same_order_replays [DecidableEq Event] {state final : State} {left right : List Event}
    (same : SameOrder (Conflict reads writes) left right)
    (replays : Replays step source state left final) : Replays step source state right final := by
  apply reordering_replays footprints extensional _ replays
  exact (reordering_iff_same_order conflict_symmetric).mpr same

end Replay

end CatalystSvm.Library.Reorderings
