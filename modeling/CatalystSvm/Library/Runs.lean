import Mathlib.Data.List.Basic

/-!
# Runs of a deterministic transition system

The scheduler is a list of actions, the system a function of state and action.
A safety property of a run is a predicate on every state it visits; a condition
on a run is a predicate on every state together with the action taken there.
-/

namespace CatalystSvm.Library.Runs

set_option autoImplicit false

variable {State Action : Type*}

def stateAfter (step : State → Action → State) (start : State) (actions : List Action)
    (count : Nat) : State :=
  (actions.take count).foldl step start

def Always (step : State → Action → State) (start : State) (actions : List Action)
    (Holds : State → Prop) : Prop :=
  ∀ count, Holds (stateAfter step start actions count)

def EachStep (step : State → Action → State) (start : State) (actions : List Action)
    (Allowed : State → Action → Prop) : Prop :=
  ∀ count action, actions[count]? = some action →
    Allowed (stateAfter step start actions count) action

variable {step : State → Action → State} {start : State} {actions : List Action}
variable {Holds : State → Prop} {Allowed Same : State → Action → Prop}

theorem state_after_succ {count : Nat} {action : Action}
    (taken : actions[count]? = some action) :
    stateAfter step start actions (count + 1) =
      step (stateAfter step start actions count) action := by
  rw [stateAfter, stateAfter, List.take_add_one, taken, List.foldl_append]
  rfl

theorem state_after_end {count : Nat} (past : actions[count]? = none) :
    stateAfter step start actions (count + 1) = stateAfter step start actions count := by
  rw [stateAfter, stateAfter, List.take_add_one, past, Option.toList_none, List.append_nil]

/-- Induction over a run whose steps are all allowed. -/
theorem always_of_each_step (initially : Holds start)
    (kept : ∀ state action, Holds state → Allowed state action → Holds (step state action))
    (allowed : EachStep step start actions Allowed) : Always step start actions Holds := by
  intro count
  induction count with
  | zero => exact initially
  | succ count ih =>
      cases taken : actions[count]? with
      | none =>
          rw [state_after_end taken]
          exact ih
      | some action =>
          rw [state_after_succ taken]
          exact kept _ _ ih (allowed count action taken)

/-- Induction over a run for a property of the state and of the actions that led to it. -/
theorem history_of_each_step {Reached : List Action → State → Prop} (initially : Reached [] start)
    (kept : ∀ past state action, Reached past state → Allowed state action →
      Reached (past ++ [action]) (step state action))
    (allowed : EachStep step start actions Allowed) (count : Nat) :
    Reached (actions.take count) (stateAfter step start actions count) := by
  induction count with
  | zero => exact initially
  | succ count ih =>
      cases taken : actions[count]? with
      | none =>
          have past := List.getElem?_eq_none_iff.mp taken
          rw [List.take_of_length_le past] at ih
          rw [state_after_end taken, List.take_of_length_le (Nat.le_succ_of_le past)]
          exact ih
      | some action =>
          rw [state_after_succ taken, List.take_add_one, taken]
          exact kept _ _ action ih (allowed count action taken)

theorem state_after_add (first further : Nat) :
    stateAfter step start actions (first + further) =
      stateAfter step (stateAfter step start actions first) (actions.drop first) further := by
  rw [stateAfter, stateAfter, stateAfter, ← List.foldl_append, List.take_add]

theorem each_step_drop (first : Nat) (allowed : EachStep step start actions Allowed) :
    EachStep step (stateAfter step start actions first) (actions.drop first) Allowed := by
  intro count action taken
  rw [List.getElem?_drop] at taken
  rw [← state_after_add]
  exact allowed _ action taken

theorem each_step_of_always
    (needed : ∀ state action, Holds state → Holds (step state action) → Allowed state action)
    (always : Always step start actions Holds) : EachStep step start actions Allowed := by
  intro count action taken
  have next := always (count + 1)
  rw [state_after_succ taken] at next
  exact needed _ _ (always count) next

theorem each_step_nil (step : State → Action → State) (start : State)
    (Allowed : State → Action → Prop) : EachStep step start [] Allowed := by
  intro count action taken
  cases taken

theorem each_step_cons {action : Action} {rest : List Action} :
    EachStep step start (action :: rest) Allowed ↔
      Allowed start action ∧ EachStep step (step start action) rest Allowed := by
  constructor
  · intro allowed
    exact ⟨allowed 0 action rfl, fun count next taken => allowed (count + 1) next taken⟩
  · intro parts count next taken
    cases count with
    | zero =>
        cases taken
        exact parts.1
    | succ count => exact parts.2 count next taken

theorem each_step_congr (same : ∀ state action, Allowed state action ↔ Same state action) :
    EachStep step start actions Allowed ↔ EachStep step start actions Same := by
  constructor
  · intro allowed count action taken
    exact (same _ _).mp (allowed count action taken)
  · intro other count action taken
    exact (same _ _).mpr (other count action taken)

/-! ## Later states -/

def Later (step : State → Action → State) (before after : State) : Prop :=
  ∃ actions : List Action, actions.foldl step before = after

section Later

variable {before middle after : State}

theorem later_refl (step : State → Action → State) (state : State) : Later step state state :=
  ⟨[], rfl⟩

theorem later_trans (first : Later step before middle) (second : Later step middle after) :
    Later step before after := by
  obtain ⟨actions, rfl⟩ := first
  obtain ⟨others, rfl⟩ := second
  exact ⟨actions ++ others, List.foldl_append⟩

theorem later_step (step : State → Action → State) (state : State) (action : Action) :
    Later step state (step state action) := ⟨[action], rfl⟩

theorem later_invariant (kept : ∀ state action, Holds state → Holds (step state action))
    (holds : Holds before) (later : Later step before after) : Holds after := by
  obtain ⟨actions, rfl⟩ := later
  induction actions generalizing before with
  | nil => exact holds
  | cons action rest ih => exact ih (kept before action holds)

theorem later_extends {Item : Type*} (items : State → List Item)
    (grows : ∀ state action, items state <+: items (step state action))
    (later : Later step before after) : items before <+: items after := by
  have kept (state : State) (action : Action) (held : items before <+: items state) :
      items before <+: items (step state action) := held.trans (grows state action)
  exact @later_invariant _ _ step (fun state => items before <+: items state) before after kept
    (List.prefix_refl _) later

theorem always_later (always : ∀ actions, Always step start actions Holds)
    (later : Later step start after) : Holds after := by
  obtain ⟨actions, rfl⟩ := later
  have last := always actions actions.length
  rw [stateAfter, List.take_length] at last
  exact last

end Later

/-! ## Runs that can stop

The state is `none` from the point on at which the system has stopped. -/

section Stopping

/-- A property of the states before the system stops. -/
def OnceRunning (Holds : State → Prop) : Option State → Prop
  | none => True
  | some state => Holds state

/-- A condition on the actions taken before the system stops. -/
def WhileRunning (Allowed : State → Action → Prop) : Option State → Action → Prop
  | none, _ => True
  | some state, action => Allowed state action

variable {move : Option State → Action → Option State} {first : Option State}
variable {Later : State → Prop} {Other Both : State → Action → Prop}

theorem once_running_imp (always : Always move first actions (OnceRunning Holds))
    (later : ∀ state, Holds state → Later state) :
    Always move first actions (OnceRunning Later) := by
  intro count
  have here := always count
  cases reached : stateAfter move first actions count with
  | none => trivial
  | some state =>
      rw [reached] at here
      exact later state here

theorem while_running_imp (allowed : EachStep move first actions (WhileRunning Allowed))
    (others : EachStep move first actions (WhileRunning Other))
    (both : ∀ state action, Allowed state action → Other state action → Both state action) :
    EachStep move first actions (WhileRunning Both) := by
  intro count action taken
  have here := allowed count action taken
  have other := others count action taken
  cases reached : stateAfter move first actions count with
  | none => trivial
  | some state =>
      rw [reached] at here other
      exact both state action here other

theorem while_running_of_always (holds : Always move first actions (OnceRunning Holds))
    (later : Always move first actions (OnceRunning Later))
    (needed : ∀ state action, Holds state → OnceRunning Later (move (some state) action) →
      Allowed state action) :
    EachStep move first actions (WhileRunning Allowed) := by
  intro count action taken
  have before := holds count
  have next := later (count + 1)
  rw [state_after_succ taken] at next
  cases reached : stateAfter move first actions count with
  | none => trivial
  | some state =>
      rw [reached] at before next
      exact needed state action before next

/-- What an invariant makes of a condition. -/
theorem while_running_given (always : Always move first actions (OnceRunning Holds))
    (allowed : EachStep move first actions (WhileRunning Allowed))
    (given : ∀ state action, Holds state → Allowed state action → Same state action) :
    EachStep move first actions (WhileRunning Same) := by
  intro count action taken
  have holds := always count
  have here := allowed count action taken
  cases reached : stateAfter move first actions count with
  | none => trivial
  | some state =>
      rw [reached] at holds here
      exact given state action holds here

theorem while_running_congr (always : Always move first actions (OnceRunning Holds))
    (same : ∀ state action, Holds state → (Allowed state action ↔ Same state action)) :
    EachStep move first actions (WhileRunning Allowed) ↔
      EachStep move first actions (WhileRunning Same) := by
  constructor
  · intro allowed
    apply while_running_given always allowed
    intro state action holds here
    exact (same state action holds).mp here
  · intro others
    apply while_running_given always others
    intro state action holds here
    exact (same state action holds).mpr here

end Stopping

end CatalystSvm.Library.Runs
