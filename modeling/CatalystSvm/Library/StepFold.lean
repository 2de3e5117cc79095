import Mathlib.Data.List.Basic

/-!
# Folding a fallible step and collecting its outputs

`runSteps` threads a state through a list of inputs and collects one output per
input; a failing step fails the run. Interpreters that agree step by step up to
a report on the output agree on whole runs, and that is proved here once.
-/

namespace CatalystSvm.Library.StepFold

set_option autoImplicit false

variable {State Input Output Report : Type*}

def runSteps (step : State → Input → Option (State × Output)) :
    State → List Input → Option (State × List Output)
  | state, [] => some (state, [])
  | state, input :: rest => do
      let (next, output) ← step state input
      let (final, outputs) ← runSteps step next rest
      some (final, output :: outputs)

variable {step : State → Input → Option (State × Output)}

theorem run_steps_cons_some {state final : State} {input : Input} {rest : List Input}
    {outputs : List Output} (ran : runSteps step state (input :: rest) = some (final, outputs)) :
    ∃ next output others, step state input = some (next, output) ∧
      runSteps step next rest = some (final, others) ∧ outputs = output :: others := by
  simp only [runSteps, bind, Option.bind_eq_some_iff] at ran
  rcases ran with ⟨⟨next, output⟩, stepped, ⟨last, others⟩, continued, result⟩
  simp only [Option.some.injEq, Prod.mk.injEq] at result
  rcases result with ⟨rfl, rfl⟩
  exact ⟨next, output, others, stepped, continued, rfl⟩

theorem run_steps_cons_of {state next final : State} {input : Input} {rest : List Input}
    {output : Output} {others : List Output} (stepped : step state input = some (next, output))
    (continued : runSteps step next rest = some (final, others)) :
    runSteps step state (input :: rest) = some (final, output :: others) := by
  simp only [runSteps, stepped, continued, bind, Option.bind_some]

theorem run_steps_append (step : State → Input → Option (State × Output)) (state : State)
    (left right : List Input) :
    runSteps step state (left ++ right) =
      (runSteps step state left).bind fun middle =>
        (runSteps step middle.1 right).map fun final => (final.1, middle.2 ++ final.2) := by
  induction left generalizing state with
  | nil =>
      cases ran : runSteps step state right with
      | none => simp [runSteps, ran]
      | some final => simp [runSteps, ran]
  | cons input rest ih =>
      simp only [List.cons_append, runSteps, bind]
      cases step state input with
      | none => rfl
      | some stepped =>
          simp only [Option.bind_some, ih]
          cases runSteps step stepped.1 rest with
          | none => rfl
          | some middle =>
              simp only [Option.bind_some]
              cases runSteps step middle.1 right <;> rfl

theorem run_steps_outputs_length {state final : State} {inputs : List Input}
    {outputs : List Output} (ran : runSteps step state inputs = some (final, outputs)) :
    outputs.length = inputs.length := by
  induction inputs generalizing state outputs with
  | nil =>
      simp only [runSteps, Option.some.injEq, Prod.mk.injEq] at ran
      simp [← ran.2]
  | cons input rest ih =>
      rcases run_steps_cons_some ran with ⟨next, output, others, _, continued, rfl⟩
      simp [ih continued]

theorem run_steps_total (total : ∀ state input, ∃ result, step state input = some result)
    (state : State) (inputs : List Input) :
    ∃ final outputs, runSteps step state inputs = some (final, outputs) := by
  induction inputs generalizing state with
  | nil => exact ⟨state, [], rfl⟩
  | cons input rest ih =>
      rcases total state input with ⟨⟨next, output⟩, stepped⟩
      rcases ih next with ⟨final, outputs, continued⟩
      exact ⟨final, output :: outputs, run_steps_cons_of stepped continued⟩

/-- An invariant under which the step returns is kept by runs, which then return. -/
theorem run_steps_invariant {Holds : State → Prop} {Allowed : Input → Prop}
    (each : ∀ state input, Holds state → Allowed input →
      ∃ next output, step state input = some (next, output) ∧ Holds next)
    {state : State} {inputs : List Input} (initially : Holds state)
    (allowed : ∀ input ∈ inputs, Allowed input) :
    ∃ final outputs, runSteps step state inputs = some (final, outputs) ∧ Holds final := by
  induction inputs generalizing state with
  | nil => exact ⟨state, [], rfl, initially⟩
  | cons input rest ih =>
      rcases each state input initially (allowed input (by simp)) with
        ⟨next, output, stepped, kept⟩
      rcases ih kept (fun later member => allowed later (by simp [member])) with
        ⟨final, outputs, continued, held⟩
      exact ⟨final, output :: outputs, run_steps_cons_of stepped continued, held⟩

/-- A stricter step, which agrees with another where it returns, runs through exactly
when it returns in every state that the other one's run comes to. -/
theorem run_steps_strict_iff {strict : State → Input → Option (State × Output)}
    (agrees : ∀ state input result, strict state input = some result →
      step state input = some result) (state : State) (inputs : List Input) :
    (∃ result, runSteps strict state inputs = some result) ↔
      ∀ count input current outputs, inputs[count]? = some input →
        runSteps step state (inputs.take count) = some (current, outputs) →
        ∃ result, strict current input = some result := by
  induction inputs generalizing state with
  | nil =>
      constructor
      · intro _ count input current outputs taken
        cases taken
      · intro _
        exact ⟨_, rfl⟩
  | cons first rest ih =>
      constructor
      · intro completes count input current outputs taken reached
        rcases completes with ⟨⟨final, results⟩, ran⟩
        rcases run_steps_cons_some ran with ⟨next, output, others, stepped, continued, _⟩
        cases count with
        | zero =>
            cases taken
            cases reached
            exact ⟨_, stepped⟩
        | succ count =>
            rw [List.take_succ_cons] at reached
            rcases run_steps_cons_some reached with ⟨moved, _, earlier, also, within, _⟩
            cases (agrees _ _ _ stepped).symm.trans also
            exact (ih next).mp ⟨_, continued⟩ count input current earlier taken within
      · intro returns
        rcases returns 0 first state [] rfl rfl with ⟨⟨next, output⟩, stepped⟩
        have later : ∀ count input current outputs, rest[count]? = some input →
            runSteps step next (rest.take count) = some (current, outputs) →
            ∃ result, strict current input = some result := by
          intro count input current outputs taken within
          have reached := run_steps_cons_of (agrees _ _ _ stepped) within
          rw [← List.take_succ_cons] at reached
          exact returns (count + 1) input current _ taken reached
        rcases (ih next).mpr later with ⟨⟨final, results⟩, continued⟩
        exact ⟨_, run_steps_cons_of stepped continued⟩

theorem run_steps_agree {strict : State → Input → Option (State × Output)}
    (agrees : ∀ state input result, strict state input = some result →
      step state input = some result) {state : State} {inputs : List Input}
    {result : State × List Output} (ran : runSteps strict state inputs = some result) :
    runSteps step state inputs = some result := by
  induction inputs generalizing state result with
  | nil => exact ran
  | cons input rest ih =>
      rcases result with ⟨final, outputs⟩
      rcases run_steps_cons_some ran with ⟨next, output, others, stepped, continued, rfl⟩
      exact run_steps_cons_of (agrees _ _ _ stepped) (ih continued)

theorem run_steps_forall {Holds : Input → Output → Prop}
    (each : ∀ state input next output, step state input = some (next, output) →
      Holds input output)
    {state final : State} {inputs : List Input} {outputs : List Output}
    (ran : runSteps step state inputs = some (final, outputs)) :
    List.Forall₂ Holds inputs outputs := by
  induction inputs generalizing state outputs with
  | nil =>
      simp only [runSteps, Option.some.injEq, Prod.mk.injEq] at ran
      rw [← ran.2]
      exact .nil
  | cons input rest ih =>
      rcases run_steps_cons_some ran with ⟨next, output, others, stepped, continued, rfl⟩
      exact .cons (each _ _ _ _ stepped) (ih continued)

/-- A step that only relabels the outputs of another relabels its runs. -/
theorem run_steps_report {other : State → Input → Option (State × Report)}
    (report : Input → Output → Report)
    (refines : ∀ state input, other state input =
      (step state input).map fun result => (result.1, report input result.2))
    (state : State) (inputs : List Input) :
    runSteps other state inputs = (runSteps step state inputs).map fun result =>
      (result.1, List.zipWith report inputs result.2) := by
  induction inputs generalizing state with
  | nil => rfl
  | cons input rest ih =>
      simp only [runSteps, refines, bind]
      cases step state input with
      | none => rfl
      | some stepped =>
          simp only [Option.map_some, Option.bind_some, ih]
          cases runSteps step stepped.1 rest <;> rfl

end CatalystSvm.Library.StepFold
