import CatalystSvm.WriteFrames

/-!
# Replaying a recorded entry on another map

The entry of a transaction lists what was read and what was written. The read set
is complete when every map that agrees on it yields the same entry; the executor
leaves it empty for a transfer that was refused for lack of balance.
-/

namespace CatalystSvm.ReadSets

open CatalystSvm.CommonTypes CatalystSvm.CommonMerkle CatalystSvm.MachineArithmetic
open CatalystSvm.TraceBuilding CatalystSvm.LedgerMachine CatalystSvm.ExecutionEngine

set_option autoImplicit false

def recordEntry (hashBytes : HashBytes) (executor : DeterministicExecutor) (mode : OverflowMode)
    (idx : Nat) (state : State) (submission : Submission) : Option (State × TraceEntry) :=
  (executeInstruction executor mode state submission.sender submission.instructionData).map
    fun executed => (executed.1, resultEntry executor idx submission.txId submission.label
      submission.failedLabel (computeStateRoot hashBytes state)
      (computeStateRoot hashBytes executed.1) executed.2)

theorem execute_loop_step (hashBytes : HashBytes) (executor : DeterministicExecutor)
    (mode : OverflowMode) (idx : Nat) (state : State) (builder : TraceBuilder)
    (submission : Submission) (rest : List Submission) :
    executeLoop hashBytes executor mode idx state builder (submission :: rest) =
      (recordEntry hashBytes executor mode idx state submission).bind fun recorded =>
        (builder.addEntry mode recorded.2).bind fun builder =>
          executeLoop hashBytes executor mode (idx + 1) recorded.1 builder rest := by
  rw [executeLoop, recordEntry, Option.bind_map]
  rfl

theorem loop_entry_recorded {hashBytes : HashBytes} {executor : DeterministicExecutor}
    {mode : OverflowMode} {idx : Nat} {state final : State} {builder built : TraceBuilder}
    {submissions : List Submission} {entry : TraceEntry}
    (completed : executeLoop hashBytes executor mode idx state builder submissions =
      some (final, built)) (member : entry ∈ built.entries) :
    entry ∈ builder.entries ∨ ∃ place before after submission,
      recordEntry hashBytes executor mode place before submission = some (after, entry) := by
  induction submissions generalizing idx state builder with
  | nil =>
      cases completed
      exact .inl member
  | cons submission rest ih =>
      rw [execute_loop_step] at completed
      simp only [Option.bind_eq_some_iff] at completed
      obtain ⟨⟨next, recorded⟩, executed, middle, added, continued⟩ := completed
      cases ih continued with
      | inr later => exact .inr later
      | inl earlier =>
          simp only [TraceBuilder.addEntry, bind, Option.bind_eq_some_iff, Option.some.injEq]
            at added
          obtain ⟨sum, summed, moved⟩ := added
          subst moved
          rw [List.mem_append, List.mem_singleton] at earlier
          cases earlier with
          | inl before => exact .inl before
          | inr own =>
              subst own
              exact .inr ⟨idx, state, next, submission, executed⟩

section Sets

variable (executor : DeterministicExecutor) (idx : Nat) (txId : TransactionId)
variable (label failedLabel pre post sender : String) (instruction : Instruction)
variable (outcome : Outcome)

/-- Except for an overdraft, host and guest report the same reads. -/
theorem recorded_reads (answered : ∀ needed available, outcome ≠ .overdrawn needed available) :
    (resultEntry executor idx txId label failedLabel pre post
        (hostReport instruction outcome)).accountsRead =
      (GuestProgram.guestReport sender instruction outcome).reads := by
  cases outcome with
  | applied reads writes compute => rfl
  | overdrawn needed available => exact absurd rfl (answered needed available)
  | refused => cases instruction <;> rfl

theorem recorded_writes :
    (resultEntry executor idx txId label failedLabel pre post
        (hostReport instruction outcome)).accountsWritten =
      (GuestProgram.guestReport sender instruction outcome).writes := by
  cases outcome with
  | applied reads writes compute => rfl
  | overdrawn needed available => rfl
  | refused => cases instruction <;> rfl

end Sets

theorem overdrawn_is_transfer {mode : OverflowMode} {state next : State} {sender : String}
    {instruction : Instruction} {needed available : UInt64}
    (performs : Performs mode state sender instruction next (.overdrawn needed available)) :
    ∃ amount targetIdx, instruction = .transfer amount targetIdx ∧
      balanceOf state sender < amount := by
  cases performs with
  | overdrawn short => exact ⟨_, _, rfl, short⟩

structure SameRecord (entry other : TraceEntry) : Prop where
  success : other.success = entry.success
  accountsRead : other.accountsRead = entry.accountsRead
  accountsWritten : other.accountsWritten = entry.accountsWritten
  computeUsed : other.computeUsed = entry.computeUsed

section Replays

variable (hashBytes : HashBytes) (maxCuPerTx : UInt64) (mode : OverflowMode) (idx : Nat)
variable (state : State) (tx : Transaction)

def fullEntry : Option (State × TraceEntry) :=
  recordEntry hashBytes (FullExecutor.new maxCuPerTx).inner mode idx state (submissionOf tx)

/-- Every map that agrees with this one on the recorded reads gives the same entry and
the same written values. -/
def ReadSetComplete : Prop :=
  ∀ next entry, fullEntry hashBytes maxCuPerTx mode idx state tx = some (next, entry) →
    ∀ other : State, (∀ key ∈ entry.accountsRead, other[key]? = state[key]?) →
      ∃ otherNext otherEntry,
        fullEntry hashBytes maxCuPerTx mode idx other tx = some (otherNext, otherEntry) ∧
        SameRecord entry otherEntry ∧
        ∀ key ∈ entry.accountsWritten, otherNext[key]? = next[key]?

def Overdraws : Prop :=
  ∃ amount targetIdx, decode tx.instructionData = .transfer amount targetIdx ∧
    balanceOf state tx.sender < amount

theorem full_entry_eq :
    fullEntry hashBytes maxCuPerTx mode idx state tx =
      (perform mode state tx.sender (decode tx.instructionData)).map fun performed =>
        (performed.1, resultEntry (.new maxCuPerTx) idx tx.txId (submissionOf tx).label
          (submissionOf tx).failedLabel (computeStateRoot hashBytes state)
          (computeStateRoot hashBytes performed.1)
          (hostReport (decode tx.instructionData) performed.2)) := by
  change (executeInstruction (.new maxCuPerTx) mode state tx.sender tx.instructionData).map _ = _
  rw [execute_instruction_refines _ rfl, Option.map_map]
  rfl

/-- Whoever is refused leaves an entry that reads nothing. -/
theorem overdraft_entry (overdraws : Overdraws state tx) :
    ∃ entry, fullEntry hashBytes maxCuPerTx mode idx state tx = some (state, entry) ∧
      entry.success = false ∧ entry.accountsRead = [] := by
  obtain ⟨amount, targetIdx, decoded, short⟩ := overdraws
  rw [full_entry_eq, decoded, perform, if_pos short]
  exact ⟨_, rfl, rfl, rfl⟩

theorem funded_entry {amount targetIdx : UInt64}
    (decoded : decode tx.instructionData = .transfer amount targetIdx) :
    ∃ next entry, fullEntry hashBytes maxCuPerTx mode idx
        ((∅ : State).insert tx.sender amount) tx = some (next, entry) ∧ entry.success = true := by
  have held : balanceOf ((∅ : State).insert tx.sender amount) tx.sender = amount := by
    rw [balanceOf, insert_get, if_pos rfl]
    rfl
  have added : addU64 mode (balanceOf (((∅ : State).insert tx.sender amount).insert tx.sender
      (balanceOf ((∅ : State).insert tx.sender amount) tx.sender - amount))
        (accountKey targetIdx)) amount = some amount := by
    have empty : balanceOf (((∅ : State).insert tx.sender amount).insert tx.sender
        (amount - amount)) (accountKey targetIdx) = 0 := by
      rw [balanceOf, insert_get, insert_get]
      split_ifs
      · exact UInt64.sub_self amount
      · rfl
    rw [held, empty, add_u64_exact mode 0 amount (by simpa using amount.toNat_lt),
      UInt64.zero_add]
  rw [full_entry_eq, decoded,
    perform_of_performs (.transferred (UInt64.le_of_eq held.symm) added)]
  exact ⟨_, _, rfl, rfl⟩

theorem overdraft_incomplete (overdraws : Overdraws state tx) :
    ¬ReadSetComplete hashBytes maxCuPerTx mode idx state tx := by
  intro complete
  obtain ⟨entry, recorded, failed, nothing⟩ :=
    overdraft_entry hashBytes maxCuPerTx mode idx state tx overdraws
  obtain ⟨amount, targetIdx, decoded, _⟩ := overdraws
  obtain ⟨_, funded, executed, succeeded⟩ :=
    funded_entry hashBytes maxCuPerTx mode idx tx decoded
  obtain ⟨_, replayed, again, same, _⟩ :=
    complete state entry recorded ((∅ : State).insert tx.sender amount) (by simp [nothing])
  rw [executed, Option.some.injEq, Prod.mk.injEq] at again
  have flags := same.success
  rw [← again.2, succeeded, failed] at flags
  cases flags

theorem solvent_complete (solvent : ¬Overdraws state tx) :
    ReadSetComplete hashBytes maxCuPerTx mode idx state tx := by
  intro next entry recorded other agrees
  rw [full_entry_eq, Option.map_eq_some_iff] at recorded
  obtain ⟨⟨moved, outcome⟩, performed, same⟩ := recorded
  cases same
  have performs := perform_spec performed
  have answered : ∀ needed available, outcome ≠ .overdrawn needed available := by
    intro needed available refused
    subst refused
    exact solvent (overdrawn_is_transfer performs)
  rw [recorded_reads _ _ _ _ _ _ _ tx.sender _ _ answered] at agrees
  obtain ⟨otherNext, again, written⟩ := WriteFrames.performs_local performs agrees
  rw [full_entry_eq, perform_of_performs again]
  refine ⟨otherNext, _, rfl, ?_, ?_⟩
  · constructor <;> cases hostReport (decode tx.instructionData) outcome <;> rfl
  · rw [recorded_writes _ _ _ _ _ _ _ tx.sender]
    exact written

/-- Exactly the refused overdrafts depend on an account that their entry leaves out. -/
theorem read_set_complete_iff :
    ReadSetComplete hashBytes maxCuPerTx mode idx state tx ↔ ¬Overdraws state tx := by
  constructor
  · intro complete overdraws
    exact overdraft_incomplete hashBytes maxCuPerTx mode idx state tx overdraws complete
  · intro solvent
    exact solvent_complete hashBytes maxCuPerTx mode idx state tx solvent

end Replays

def largePayment : Transaction :=
  { Transaction.new ⟨"tx_000001"⟩ "alice" "program" with
    instructionData := transferBytes 2000000 7 }

/-- The refusal was decided by alice's balance and its entry reads no account. -/
theorem large_payment_reads_nothing :
    ¬ReadSetComplete sampleDigest 200000 .panicking 0 (initialBalances ["alice"]) largePayment := by
  apply overdraft_incomplete
  refine ⟨2000000, 7, decode_transfer_bytes 2000000 7, ?_⟩
  decide +kernel

end CatalystSvm.ReadSets
