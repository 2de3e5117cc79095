import CatalystSvm.CommitmentBinding
import CatalystSvm.ReadSets

/-!
# Reading an executed entry back from its text

Account names are joined into the text of an entry without escaping, and a sender
may contain any of the marks. What an executor records has one of six shapes; its
outcome and compute name the shape, and each shape can be cut apart again.
-/

namespace CatalystSvm.EntryEncoding

open CatalystSvm.CommonTypes CatalystSvm.CommonMerkle CatalystSvm.MachineArithmetic
open CatalystSvm.TraceBuilding CatalystSvm.LedgerMachine
open CatalystSvm.CommitmentBinding CatalystSvm.Library.TextFraming

set_option autoImplicit false

structure Hashed where
  txId : String
  success : Bool
  computeUsed : UInt64
  accountsRead : List String
  accountsWritten : List String
  deriving DecidableEq, Repr

def Hashed.text (entry : Hashed) : String :=
  entryText entry.txId entry.success entry.computeUsed entry.accountsRead entry.accountsWritten

/-- What an executor can record. -/
inductive Shape : Bool → UInt64 → List String → List String → Prop where
  | transferred (sender : String) (targetIdx : UInt64) :
      Shape true 5000 [sender, accountKey targetIdx] [sender, accountKey targetIdx]
  | stored (keyIdx : UInt64) : Shape true 3000 [] [dataKey keyIdx]
  | incremented (keyIdx : UInt64) : Shape true 2000 [dataKey keyIdx] [dataKey keyIdx]
  | idle : Shape true 1000 [] []
  | overdrawn (sender : String) : Shape false 5000 [sender] []
  | refused (compute : UInt64) (cheap : compute ≠ 5000) : Shape false compute [] []

def Hashed.Shaped (entry : Hashed) : Prop :=
  Shape entry.success entry.computeUsed entry.accountsRead entry.accountsWritten

def setsText (reads writes : List String) : String :=
  ",".intercalate reads ++ ":writes:" ++ ",".intercalate writes

theorem sets_of_text {success : Bool} {compute : UInt64}
    {reads otherReads writes otherWrites : List String}
    (shape : Shape success compute reads writes)
    (otherShape : Shape success compute otherReads otherWrites)
    (same : setsText reads writes = setsText otherReads otherWrites) :
    reads = otherReads ∧ writes = otherWrites := by
  cases shape with
  | transferred sender targetIdx =>
      cases otherShape with
      | transferred other otherIdx =>
          obtain ⟨senders, targets⟩ := transfer_set (doubled_set same)
          rw [senders, targets]
          exact ⟨rfl, rfl⟩
  | stored keyIdx =>
      cases otherShape with
      | stored otherIdx =>
          have keys := (append_split_of_length rfl same).2
          change dataKey keyIdx = dataKey otherIdx at keys
          rw [keys]
          exact ⟨rfl, rfl⟩
  | incremented keyIdx =>
      cases otherShape with
      | incremented otherIdx =>
          have keys := doubled_set same
          change dataKey keyIdx = dataKey otherIdx at keys
          rw [keys]
          exact ⟨rfl, rfl⟩
  | idle =>
      cases otherShape with
      | idle => exact ⟨rfl, rfl⟩
  | overdrawn sender =>
      cases otherShape with
      | overdrawn other =>
          have senders : sender ++ ":writes:" = other ++ ":writes:" := by
            simpa [setsText] using same
          rw [(String.append_left_inj _).mp senders]
          exact ⟨rfl, rfl⟩
      | refused _ cheap => exact absurd rfl cheap
  | refused _ cheap =>
      cases otherShape with
      | overdrawn other => exact absurd rfl cheap
      | refused => exact ⟨rfl, rfl⟩

theorem shaped_text_injective {entry other : Hashed} (shaped : entry.Shaped)
    (otherShaped : other.Shaped) (idFree : ':' ∉ entry.txId.toList)
    (otherFree : ':' ∉ other.txId.toList) (same : entry.text = other.text) : entry = other := by
  obtain ⟨ids, flags, computes, sets⟩ := entry_text_fields idFree otherFree same
  rw [Hashed.Shaped, flags, computes] at shaped
  obtain ⟨reads, writes⟩ := sets_of_text shaped otherShaped sets
  cases entry
  cases other
  simp only at ids flags computes reads writes
  rw [ids, flags, computes, reads, writes]

/-! ## What the executors record -/

/-- An entry of the guest, which never becomes a `TraceEntry`. -/
def hashedResult (txId : String) (result : GuestProgram.InstructionResult) : Hashed where
  txId := txId
  success := result.success
  computeUsed := result.compute
  accountsRead := result.reads
  accountsWritten := result.writes

def hashedEntry (entry : TraceEntry) : Hashed where
  txId := entry.txId.asStr
  success := entry.success
  computeUsed := entry.computeUsed
  accountsRead := entry.accountsRead
  accountsWritten := entry.accountsWritten

def RecordedByGuest (entry : Hashed) : Prop :=
  ∃ mode state sender data next result txId,
    GuestProgram.executeInstruction mode state sender data = some (next, result) ∧
      entry = hashedResult txId result

/-- An entry of a trace whose compute cap cuts nothing. -/
def RecordedByHost (entry : Hashed) : Prop :=
  ∃ hashBytes maxCuPerTx mode batch transactions trace, 5000 ≤ maxCuPerTx ∧
    (ExecutionEngine.FullExecutor.new maxCuPerTx).executeWithTransactions hashBytes mode batch
      transactions = some trace ∧
      ∃ recorded ∈ trace.entries, entry = hashedEntry recorded

theorem applied_shape {mode : OverflowMode} {state next : State} {sender : String}
    {instruction : Instruction} {reads writes : List String} {compute : UInt64}
    (performs : Performs mode state sender instruction next (.applied reads writes compute)) :
    Shape true compute reads writes := by
  cases performs with
  | transferred covered added => exact .transferred _ _
  | stored => exact .stored _
  | incremented => exact .incremented _
  | idle => exact .idle

theorem guest_entry_shaped {entry : Hashed} (recorded : RecordedByGuest entry) : entry.Shaped := by
  obtain ⟨mode, state, sender, data, next, result, txId, executed, same⟩ := recorded
  subst same
  rw [GuestProgram.execute_instruction_refines, Option.map_eq_some_iff] at executed
  obtain ⟨⟨moved, outcome⟩, performed, reported⟩ := executed
  cases reported
  cases outcome with
  | applied reads writes compute => exact applied_shape (perform_spec performed)
  | overdrawn needed available => exact .overdrawn sender
  | refused =>
      cases decode data with
      | unknown opcode => exact .refused 500 (by decide)
      | _ => exact .refused 0 (by decide)

theorem uncapped {compute maxCuPerTx : UInt64} (modest : compute ≤ 5000)
    (room : 5000 ≤ maxCuPerTx) : min compute maxCuPerTx = compute := by
  rw [Std.min_eq_if, if_pos (UInt64.le_trans modest room)]

theorem recorded_entry_shaped {hashBytes : HashBytes} {maxCuPerTx : UInt64} {mode : OverflowMode}
    {idx : Nat} {state next : State} {submission : ExecutionEngine.Submission}
    {entry : TraceEntry} (room : 5000 ≤ maxCuPerTx)
    (recorded : ReadSets.recordEntry hashBytes (.new maxCuPerTx) mode idx state submission =
      some (next, entry)) : (hashedEntry entry).Shaped := by
  rw [ReadSets.recordEntry, ExecutionEngine.execute_instruction_refines _ rfl, Option.map_map,
    Option.map_eq_some_iff] at recorded
  obtain ⟨⟨moved, outcome⟩, performed, reported⟩ := recorded
  cases reported
  cases outcome with
  | applied reads writes compute =>
      have cut := uncapped (perform_compute_le performed) room
      change Shape true (min compute maxCuPerTx) reads writes
      rw [cut]
      exact applied_shape (perform_spec performed)
  | overdrawn needed available => exact .refused 0 (by decide)
  | refused => cases decode submission.instructionData <;> exact .refused 0 (by decide)

theorem host_entry_shaped {entry : Hashed} (recorded : RecordedByHost entry) : entry.Shaped := by
  obtain ⟨hashBytes, maxCuPerTx, mode, batch, transactions, trace, room, executed, entered,
    member, same⟩ := recorded
  subst same
  rw [ExecutionEngine.FullExecutor.executeWithTransactions, ExecutionEngine.executeSubmissions]
    at executed
  simp only [bind, Option.bind_eq_some_iff, Option.some.injEq] at executed
  obtain ⟨⟨final, built⟩, looped, rfl⟩ := executed
  cases ReadSets.loop_entry_recorded looped member with
  | inl before => cases before
  | inr later =>
      obtain ⟨place, before, after, submission, kept⟩ := later
      exact recorded_entry_shaped room kept

/-- Two recorded entries with one text are one entry, whatever their senders are called. -/
theorem executed_entry_text_injective (entry other : Hashed)
    (recorded : RecordedByGuest entry ∨ RecordedByHost entry)
    (otherRecorded : RecordedByGuest other ∨ RecordedByHost other)
    (idFree : ':' ∉ entry.txId.toList) (otherFree : ':' ∉ other.txId.toList)
    (same : entry.text = other.text) : entry = other := by
  have shaped := recorded.elim guest_entry_shaped host_entry_shaped
  have otherShaped := otherRecorded.elim guest_entry_shaped host_entry_shaped
  exact shaped_text_injective shaped otherShaped idFree otherFree same

/-- A name made of the marks of the encoding. -/
def awkwardSender : String := ",account_7:writes:,"

def awkwardEntry : Hashed :=
  ⟨"tx_0", true, 5000, [awkwardSender, accountKey 7], [awkwardSender, accountKey 7]⟩

/-- Two payments of different amounts out of different maps leave one entry. -/
theorem awkward_sender_read_back : awkwardEntry = hashedResult "tx_0"
    ⟨[awkwardSender, "account_7"], [awkwardSender, "account_7"], 5000, true, none⟩ := by
  apply executed_entry_text_injective
  · left
    exact ⟨.wrapping, (∅ : State).insert awkwardSender 1, awkwardSender, transferBytes 1 7, _, _,
      "tx_0", rfl, rfl⟩
  · left
    exact ⟨.panicking, (∅ : State).insert awkwardSender 9, awkwardSender, transferBytes 2 7, _, _,
      "tx_0", rfl, rfl⟩
  · decide
  · decide
  · rfl

end CatalystSvm.EntryEncoding
