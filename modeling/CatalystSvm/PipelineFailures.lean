import CatalystSvm.Library.Runs
import CatalystSvm.PipelineBatches

/-!
# Failed seals

The engine drains both queues before it executes, proves and verifies. An error
of the prover or of the verifier returns early, and the drained transactions are
then in no queue and in no recorded batch.
-/

namespace CatalystSvm.PipelineFailures

open CatalystSvm.CommonTypes CatalystSvm.BatchPolicy CatalystSvm.CommonMetrics
open CatalystSvm.ExecutionEngine CatalystSvm.PipelineEngine CatalystSvm.PipelineRuns
open CatalystSvm.PipelineBatches CatalystSvm.Library.Runs

set_option autoImplicit false

def recordedTransactions {Policy : Type} (engine : Engine Policy) : List Transaction :=
  (engine.recorded.map RecordedBatch.transactions).flatten

section Calls

variable {Policy World : Type} [PolicyEngine Policy] [Clock World]

/-- When the call returns an error, everything queued for it and everything recorded
before is still queued or recorded. -/
def KeptOnError (setup : Setup World) (machine : Machine Policy World) (call : Call) : Prop :=
  ∀ error after, perform setup call machine = some (.error error, after) →
    ((resting call machine).engine.pending ++ recordedTransactions machine.engine).Subperm
      (after.engine.pending ++ recordedTransactions after.engine)

/-- Whatever the call seals and executes is proved and verified without an error. -/
def SealAccepted (setup : Setup World) (machine : Machine Policy World) (call : Call) : Prop :=
  ∀ point counter trace, sealPoint call machine = some point →
    Executes setup point counter trace →
    ∃ proof verification proved verified,
      Accepts setup point trace proof verification proved verified

variable {setup : Setup World} {machine : Machine Policy World} {call : Call}

theorem kept_on_error_iff : KeptOnError setup machine call ↔ SealAccepted setup machine call := by
  constructor
  · intro kept point counter trace found executed
    rcases perform_cases setup call machine with ⟨none, _⟩ | ⟨other, some, same, filled, seals⟩
    · cases found.symm.trans none
    · cases found.symm.trans some
      rcases seal_executed filled executed with
        ⟨proof, verification, proved, verified, accepted, _⟩ | ⟨_, error, world, failed⟩
      · exact ⟨proof, verification, proved, verified, accepted⟩
      · -- The queues are empty now, so the drained transactions would have to be recorded.
        have lost := (kept error _ (seals.trans failed)).length_le
        have nonempty := List.length_pos_iff.mpr filled
        have past : point.engine.recorded = machine.engine.recorded := by
          rw [same, (resting_frame call machine).recorded]
        simp only [recordedTransactions, ← same, ← past, List.length_append] at lost
        change _ ≤ 0 + _ at lost
        simp only [drain] at lost
        omega
  · intro accepted error after failed
    rcases perform_some failed with ⟨done, _⟩ | ⟨point, found, _, _, spec⟩
    · cases done
    · cases spec with
      | failed _ executed rejected =>
          rcases accepted point _ _ found executed with
            ⟨proof, verification, proved, verified, both⟩
          exact absurd both (rejected proof verification proved verified)

end Calls

/-- Over every run, errors included: nothing queued or recorded goes missing exactly
when every batch that is sealed gets through the prover and the verifier. -/
theorem transactions_kept_iff_seals_accepted {Policy World : Type} [PolicyEngine Policy]
    [Clock World] (setup : Setup World) (policy : Policy) (executor : FullExecutor)
    (world : World) (calls : List Call) :
    EachStep (callStep setup) (some ⟨.new policy executor, world⟩) calls
        (WhileRunning (KeptOnError setup)) ↔
      EachStep (callStep setup) (some ⟨.new policy executor, world⟩) calls
        (WhileRunning (SealAccepted setup)) := by
  apply each_step_congr
  intro state call
  cases state with
  | none => exact Iff.rfl
  | some machine => exact kept_on_error_iff

def failingSetup : Setup VirtualClock :=
  { sampleSetup with
    prove := fun _ _ clock => (.error (.internal "execution failed"), clock) }

theorem failed_seal_loses_transaction :
    ¬EachStep (callStep failingSetup)
      (some ⟨.new (FixedCountPolicy.mk 1) (.new 200000), ⟨0⟩⟩)
      [.ingest (sampleArrival "a" 0 .normal)] (WhileRunning (KeptOnError failingSetup)) := by
  intro kept
  have returned : (perform failingSetup (.ingest (sampleArrival "a" 0 .normal))
      ⟨.new (FixedCountPolicy.mk 1) (.new 200000), ⟨0⟩⟩).map (fun outcome =>
        (outcome.1.isOk, (outcome.2.engine.pending ++
          recordedTransactions outcome.2.engine).length)) = some (false, 0) := by
    decide +kernel
  rcases Option.map_eq_some_iff.mp returned with ⟨⟨result, after⟩, ran, left⟩
  cases result with
  | ok done => cases left
  | error error =>
      have kept := (kept 0 _ rfl error after ran).length_le
      have nothing : (after.engine.pending ++ recordedTransactions after.engine).length = 0 :=
        congrArg Prod.snd left
      rw [nothing] at kept
      exact absurd kept (by decide +kernel)

end CatalystSvm.PipelineFailures
