import CatalystSvm.ExecutionEngine
import CatalystSvm.GuestProgram

/-!
# Host and guest interpreters in lock step

Both interpreters refine the ledger, so they move every map in the same way and
agree on which transactions succeed and on everything reported about a success.
What they say about a failure is not part of this relation.
-/

namespace CatalystSvm.InterpreterSimulation

open CatalystSvm.CommonTypes CatalystSvm.CommonMerkle CatalystSvm.MachineArithmetic
open CatalystSvm.LedgerMachine CatalystSvm.Library.StepFold

set_option autoImplicit false

/-- One transaction on the host; an error leaves the run going. -/
def hostStep (executor : ExecutionEngine.DeterministicExecutor) (mode : OverflowMode)
    (state : State) (call : Call) : Option (State × ExecutionEngine.InstructionResult) :=
  ExecutionEngine.executeInstruction executor mode state call.sender call.instructionData

def guestStep (mode : OverflowMode) (state : State) (call : Call) :
    Option (State × GuestProgram.InstructionResult) :=
  GuestProgram.executeInstruction mode state call.sender call.instructionData

def SameReport (host : ExecutionEngine.InstructionResult)
    (guest : GuestProgram.InstructionResult) : Prop :=
  match host with
  | .ok effects => guest.success = true ∧ guest.reads = effects.reads ∧
      guest.writes = effects.writes ∧ guest.compute = effects.compute
  | .error _ => guest.success = false

structure RunsAgree (hashBytes : HashBytes)
    (host : State × List ExecutionEngine.InstructionResult)
    (guest : State × List GuestProgram.InstructionResult) : Prop where
  sameMap : host.1 = guest.1
  sameReports : List.Forall₂ SameReport host.2 guest.2
  sameRoot : GuestProgram.computeStateRoot hashBytes guest.1 =
    some (TraceBuilding.computeStateRoot hashBytes host.1)

theorem host_run_eq (maxCuPerTx : UInt64) (mode : OverflowMode) (state : State)
    (calls : List Call) :
    runSteps (hostStep (.new maxCuPerTx) mode) state calls =
      (run mode state calls).map fun ran => (ran.1, List.zipWith
        (fun call outcome => ExecutionEngine.hostReport (decode call.instructionData) outcome)
        calls ran.2) := by
  apply run_steps_report
  intro state call
  exact ExecutionEngine.execute_instruction_refines _ rfl mode state call.sender
    call.instructionData

theorem guest_run_eq (mode : OverflowMode) (state : State) (calls : List Call) :
    runSteps (guestStep mode) state calls =
      (run mode state calls).map fun ran => (ran.1, List.zipWith
        (fun call outcome =>
          GuestProgram.guestReport call.sender (decode call.instructionData) outcome)
        calls ran.2) := by
  apply run_steps_report
  intro state call
  exact GuestProgram.execute_instruction_refines mode state call.sender call.instructionData

theorem reports_agree (sender : String) (instruction : Instruction) (outcome : Outcome) :
    SameReport (ExecutionEngine.hostReport instruction outcome)
      (GuestProgram.guestReport sender instruction outcome) := by
  cases outcome with
  | applied reads writes compute => exact ⟨rfl, rfl, rfl, rfl⟩
  | overdrawn needed available => exact rfl
  | refused => cases instruction <;> exact rfl

theorem report_lists_agree (calls : List Call) (outcomes : List Outcome) :
    List.Forall₂ SameReport
      (List.zipWith (fun call outcome =>
        ExecutionEngine.hostReport (decode call.instructionData) outcome) calls outcomes)
      (List.zipWith (fun call outcome =>
        GuestProgram.guestReport call.sender (decode call.instructionData) outcome)
          calls outcomes) := by
  induction calls generalizing outcomes with
  | nil => exact .nil
  | cons call rest ih =>
      cases outcomes with
      | nil => exact .nil
      | cons outcome others => exact .cons (reports_agree _ _ outcome) (ih others)

/-- From any map, on any list, after any number of transactions. A panic of one
interpreter is a panic of the other at the same point. -/
theorem interpreters_agree_on_every_prefix (hashBytes : HashBytes) (maxCuPerTx : UInt64)
    (mode : OverflowMode) (state : State) (calls : List Call) (count : Nat) :
    Option.Rel (RunsAgree hashBytes)
      (runSteps (hostStep (.new maxCuPerTx) mode) state (calls.take count))
      (runSteps (guestStep mode) state (calls.take count)) := by
  rw [host_run_eq, guest_run_eq]
  cases run mode state (calls.take count) with
  | none => exact .none
  | some ran =>
      apply Option.Rel.some
      constructor
      · rfl
      · exact report_lists_agree _ _
      · exact GuestProgram.compute_state_root_eq hashBytes ran.1

end CatalystSvm.InterpreterSimulation
