import CatalystSvm.Library.Footprints
import CatalystSvm.InterpreterSimulation

/-!
# What one instruction can touch

A failing instruction leaves the account map alone, a succeeding one changes the
keys that it reports and removes none. The guest also reports everything that it
reads, a failing transfer included, so transactions with footprints apart can be
exchanged.
-/

namespace CatalystSvm.WriteFrames

open CatalystSvm.CommonTypes CatalystSvm.CommonMerkle CatalystSvm.MachineArithmetic
open CatalystSvm.LedgerMachine CatalystSvm.Library.Footprints

set_option autoImplicit false

structure WriteFrame (writes : List String) (before after : State) : Prop where
  others : ∀ key, key ∉ writes → after[key]? = before[key]?
  present : ∀ key ∈ writes, key ∈ after
  retained : ∀ key, key ∈ before → key ∈ after

theorem unchanged_write_frame (state : State) : WriteFrame [] state state where
  others := fun _ _ => rfl
  present := by simp
  retained := fun _ member => member

theorem insert_write_frame (state : State) (key : String) (value : UInt64) :
    WriteFrame [key] state (state.insert key value) where
  others := by
    intro other outside
    have different : key ≠ other := by
      intro same
      exact outside (by simp [same])
    rw [insert_get, if_neg different]
  present := by simp
  retained := by
    intro other member
    simp [member]

theorem write_frame_append {first second : List String} {before middle after : State}
    (earlier : WriteFrame first before middle) (later : WriteFrame second middle after) :
    WriteFrame (first ++ second) before after where
  others := by
    intro key outside
    rw [List.mem_append, not_or] at outside
    rw [later.others key outside.2, earlier.others key outside.1]
  present := by
    intro key member
    rcases List.mem_append.mp member with early | late
    · exact later.retained key (earlier.present key early)
    · exact later.present key late
  retained := fun key member => later.retained key (earlier.retained key member)

section Ledger

variable {mode : OverflowMode} {state next other : State} {sender : String}
variable {instruction : Instruction} {outcome : Outcome}

theorem performs_failure (performs : Performs mode state sender instruction next outcome)
    (failed : outcome.succeeded = false) : next = state := by
  cases performs with
  | transferred covered added => cases failed
  | stored => cases failed
  | incremented => cases failed
  | idle => rfl
  | overdrawn short => rfl
  | refusedEmpty => rfl
  | refusedTruncated => rfl
  | refusedUnknown => rfl

theorem performs_write_frame {reads writes : List String} {compute : UInt64}
    (performs : Performs mode state sender instruction next (.applied reads writes compute)) :
    WriteFrame writes state next := by
  cases performs with
  | transferred covered added =>
      exact write_frame_append (insert_write_frame _ _ _) (insert_write_frame _ _ _)
  | stored => exact insert_write_frame _ _ _
  | incremented => exact insert_write_frame _ _ _
  | idle => exact unchanged_write_frame _

theorem balance_congr {key : String} (same : other[key]? = state[key]?) :
    balanceOf other key = balanceOf state key := by
  rw [balanceOf, balanceOf, same]

/-- The same happens on every map that agrees on the keys the guest reports as read. -/
theorem performs_local (performs : Performs mode state sender instruction next outcome)
    (agrees : ∀ key ∈ (GuestProgram.guestReport sender instruction outcome).reads,
      other[key]? = state[key]?) :
    ∃ otherNext, Performs mode other sender instruction otherNext outcome ∧
      ∀ key ∈ (GuestProgram.guestReport sender instruction outcome).writes,
        otherNext[key]? = next[key]? := by
  cases performs with
  | @transferred amount targetIdx credited covered added =>
      have own : balanceOf other sender = balanceOf state sender :=
        balance_congr (agrees sender (by simp [GuestProgram.guestReport]))
      have target := agrees (accountKey targetIdx) (by simp [GuestProgram.guestReport])
      have debited (value : UInt64) :
          balanceOf (other.insert sender value) (accountKey targetIdx) =
            balanceOf (state.insert sender value) (accountKey targetIdx) := by
        apply balance_congr
        rw [insert_get, insert_get, target]
      rw [← own] at covered
      rw [← own, ← debited] at added
      refine ⟨_, .transferred covered added, ?_⟩
      intro key member
      rw [insert_get, insert_get, insert_get, insert_get, own]
      split_ifs with isTarget isSender
      · rfl
      · rfl
      · have written : key = sender ∨ key = accountKey targetIdx := by
          simpa [GuestProgram.guestReport] using member
        rcases written with bySender | byTarget
        · exact absurd bySender.symm isSender
        · exact absurd byTarget.symm isTarget
  | overdrawn short =>
      have own : balanceOf other sender = balanceOf state sender :=
        balance_congr (agrees sender (by simp [GuestProgram.guestReport]))
      rw [← own] at short ⊢
      exact ⟨other, .overdrawn short, by simp [GuestProgram.guestReport]⟩
  | @stored keyIdx value =>
      refine ⟨_, .stored, ?_⟩
      intro key member
      rw [List.mem_singleton.mp member, insert_get, insert_get, if_pos rfl, if_pos rfl]
  | @incremented keyIdx delta =>
      have held : balanceOf other (dataKey keyIdx) = balanceOf state (dataKey keyIdx) :=
        balance_congr (agrees _ (by simp [GuestProgram.guestReport]))
      refine ⟨_, .incremented, ?_⟩
      intro key member
      rw [List.mem_singleton.mp member, insert_get, insert_get, if_pos rfl, if_pos rfl, held]
  | idle => exact ⟨other, .idle, by simp [GuestProgram.guestReport]⟩
  | refusedEmpty => exact ⟨other, .refusedEmpty, by simp [GuestProgram.guestReport]⟩
  | refusedTruncated => exact ⟨other, .refusedTruncated, by simp [GuestProgram.guestReport]⟩
  | refusedUnknown => exact ⟨other, .refusedUnknown, by simp [GuestProgram.guestReport]⟩

end Ledger

/-! ## The two interpreters -/

def HostFrame (before after : State) : ExecutionEngine.InstructionResult → Prop
  | .error _ => after = before
  | .ok effects => WriteFrame effects.writes before after

def GuestFrame (before after : State) (result : GuestProgram.InstructionResult) : Prop :=
  if result.success then WriteFrame result.writes before after else after = before

theorem host_frame {executor : ExecutionEngine.DeterministicExecutor} {mode : OverflowMode}
    {state next : State} {sender : String} {data : List UInt8}
    {result : ExecutionEngine.InstructionResult}
    (executed : ExecutionEngine.executeInstruction executor mode state sender data =
      some (next, result)) : HostFrame state next result := by
  rw [ExecutionEngine.execute_instruction_reports, Option.map_eq_some_iff] at executed
  rcases executed with ⟨⟨moved, outcome⟩, performed, reported⟩
  cases reported
  have performs := perform_spec performed
  cases outcome with
  | applied reads writes compute => exact performs_write_frame performs
  | overdrawn needed available => exact performs_failure performs rfl
  | refused =>
      have same := performs_failure performs rfl
      cases decode data with
      | unknown opcode =>
          subst same
          rw [ExecutionEngine.executorReport]
          split_ifs
          · rfl
          · exact unchanged_write_frame _
      | _ => exact same

theorem guest_frame {mode : OverflowMode} {state next : State} {sender : String}
    {data : List UInt8} {result : GuestProgram.InstructionResult}
    (executed : GuestProgram.executeInstruction mode state sender data = some (next, result)) :
    GuestFrame state next result := by
  rw [GuestProgram.execute_instruction_refines, Option.map_eq_some_iff] at executed
  rcases executed with ⟨⟨moved, outcome⟩, performed, reported⟩
  cases reported
  have performs := perform_spec performed
  cases outcome with
  | applied reads writes compute => exact performs_write_frame performs
  | overdrawn needed available => exact performs_failure performs rfl
  | refused =>
      have same := performs_failure performs rfl
      cases decode data <;> exact same

/-- In both interpreters, from every map and for all instruction bytes. -/
theorem failures_atomic_and_writes_framed :
    (∀ (executor : ExecutionEngine.DeterministicExecutor) (mode : OverflowMode)
      (state next : State) (sender : String) (data : List UInt8)
      (result : ExecutionEngine.InstructionResult),
      ExecutionEngine.executeInstruction executor mode state sender data = some (next, result) →
      HostFrame state next result) ∧
    ∀ (mode : OverflowMode) (state next : State) (sender : String) (data : List UInt8)
      (result : GuestProgram.InstructionResult),
      GuestProgram.executeInstruction mode state sender data = some (next, result) →
      GuestFrame state next result :=
  ⟨fun _ _ _ _ _ _ _ executed => host_frame executed,
    fun _ _ _ _ _ _ executed => guest_frame executed⟩

/-- The host refuses to overdraw alice's account, the guest increments a counter. -/
theorem overdraft_then_increment :
    (∃ next, ExecutionEngine.executeInstruction (.new 200000) .panicking
        ((∅ : State).insert "alice" 1) "alice" [0, 2, 0, 0, 0, 0, 0, 0, 0, 7, 0, 0, 0, 0, 0, 0, 0] =
          some (next, .error (.insufficientBalance 2 1)) ∧
      next = (∅ : State).insert "alice" 1) ∧
    ∃ next, GuestProgram.executeInstruction .panicking
        ((∅ : State).insert "alice" 1) "alice" [2, 7, 0, 0, 0, 0, 0, 0, 0, 3, 0, 0, 0, 0, 0, 0, 0] =
          some (next, ⟨["data_7"], ["data_7"], 2000, true, none⟩) ∧
      WriteFrame ["data_7"] ((∅ : State).insert "alice" 1) next := by
  constructor
  · refine ⟨(∅ : State).insert "alice" 1, rfl, ?_⟩
    exact failures_atomic_and_writes_framed.1 (.new 200000) .panicking _ _ "alice"
      [0, 2, 0, 0, 0, 0, 0, 0, 0, 7, 0, 0, 0, 0, 0, 0, 0] (.error (.insufficientBalance 2 1)) rfl
  · refine ⟨((∅ : State).insert "alice" 1).insert "data_7" 3, rfl, ?_⟩
    exact failures_atomic_and_writes_framed.2 .panicking _ _ "alice"
      [2, 7, 0, 0, 0, 0, 0, 0, 0, 3, 0, 0, 0, 0, 0, 0, 0]
      ⟨["data_7"], ["data_7"], 2000, true, none⟩ rfl

/-! ## Independent transactions -/

theorem guest_footprint (mode : OverflowMode) (sender : String) (data : List UInt8) :
    Footprint (fun (state : State) (key : String) => state[key]?)
      GuestProgram.InstructionResult.reads GuestProgram.InstructionResult.writes
      (fun state => GuestProgram.executeInstruction mode state sender data) where
  frame := by
    intro state next result executed key outside
    have framed := guest_frame executed
    rw [GuestFrame] at framed
    split_ifs at framed
    · exact framed.others key outside
    · rw [framed]
  local_reads := by
    intro state next result other executed agrees
    rw [GuestProgram.execute_instruction_refines, Option.map_eq_some_iff] at executed
    rcases executed with ⟨⟨moved, outcome⟩, performed, reported⟩
    cases reported
    rcases performs_local (perform_spec performed) agrees with ⟨otherNext, again, written⟩
    refine ⟨otherNext, ?_, written⟩
    rw [GuestProgram.execute_instruction_refines, perform_of_performs again]
    rfl

def Independent (first second : GuestProgram.InstructionResult) : Prop :=
  Apart GuestProgram.InstructionResult.reads GuestProgram.InstructionResult.writes first second ∧
    Apart GuestProgram.InstructionResult.reads GuestProgram.InstructionResult.writes second first

instance (first second : GuestProgram.InstructionResult) : Decidable (Independent first second) :=
  inferInstanceAs (Decidable (_ ∧ _))

/-- The reports of one order decide that the other order does the same. -/
theorem independent_transactions_commute (mode : OverflowMode) (state middle final : State)
    (firstSender secondSender : String) (firstData secondData : List UInt8)
    (first second : GuestProgram.InstructionResult)
    (ranFirst : GuestProgram.executeInstruction mode state firstSender firstData =
      some (middle, first))
    (ranSecond : GuestProgram.executeInstruction mode middle secondSender secondData =
      some (final, second))
    (independent : Independent first second) :
    ∃ other, GuestProgram.executeInstruction mode state secondSender secondData =
        some (other, second) ∧
      GuestProgram.executeInstruction mode other firstSender firstData = some (final, first) := by
  have extensional : ∀ left right : State,
      (∀ key : String, left[key]? = right[key]?) → left = right :=
    fun _ _ same => Std.ExtTreeMap.ext_getElem? fun {key} => same key
  exact apart_steps_commute (guest_footprint mode firstSender firstData)
    (guest_footprint mode secondSender secondData) extensional ranFirst ranSecond
    independent.1 independent.2

theorem overdraft_and_payment_commute :
    ∃ other final, GuestProgram.executeInstruction .wrapping
        (((∅ : State).insert "alice" 1).insert "bob" 5) "bob"
        [0, 2, 0, 0, 0, 0, 0, 0, 0, 7, 0, 0, 0, 0, 0, 0, 0] =
          some (other, ⟨["bob", "account_7"], ["bob", "account_7"], 5000, true, none⟩) ∧
      GuestProgram.executeInstruction .wrapping other "alice"
        [0, 2, 0, 0, 0, 0, 0, 0, 0, 7, 0, 0, 0, 0, 0, 0, 0] =
          some (final, ⟨["alice"], [], 5000, false, some "insufficient balance"⟩) := by
  rcases independent_transactions_commute .wrapping
    (((∅ : State).insert "alice" 1).insert "bob" 5) _ _ "alice" "bob"
    [0, 2, 0, 0, 0, 0, 0, 0, 0, 7, 0, 0, 0, 0, 0, 0, 0]
    [0, 2, 0, 0, 0, 0, 0, 0, 0, 7, 0, 0, 0, 0, 0, 0, 0] _ _ rfl rfl (by decide +kernel) with
    ⟨other, again, swapped⟩
  exact ⟨other, _, again, swapped⟩

end CatalystSvm.WriteFrames
