import Mathlib.Data.List.Perm.Basic
import CatalystSvm.BalanceSafety

/-!
# The slots that `SetData` and `Increment` write

A slot is a register of its own: what a run leaves in it is the fold over the
instructions that name its index, and everything else in the run is irrelevant.
-/

namespace CatalystSvm.DataSlots

open CatalystSvm.CommonTypes CatalystSvm.CommonMerkle CatalystSvm.MachineArithmetic
open CatalystSvm.LedgerMachine CatalystSvm.ExecutionEngine CatalystSvm.ProverInputs
open CatalystSvm.InterpreterSimulation
open CatalystSvm.BatchContinuity CatalystSvm.ValueConservation CatalystSvm.BalanceSafety
open CatalystSvm.Library.StepFold

set_option autoImplicit false

inductive SlotOp where
  | set (value : UInt64)
  | add (delta : UInt64)
  deriving DecidableEq, Repr

/-- A slot is absent until it is written; sums stop at the largest `u64`. -/
def SlotOp.apply (slot : Option UInt64) : SlotOp → Option UInt64
  | .set value => some value
  | .add delta => some (UInt64.ofNat (min (2 ^ 64 - 1) ((slot.getD 0).toNat + delta.toNat)))

def slotValue (ops : List SlotOp) : Option UInt64 := ops.foldl SlotOp.apply none

def slotOp (index : UInt64) : Instruction → Option SlotOp
  | .setData keyIdx value => if keyIdx = index then some (.set value) else none
  | .increment keyIdx delta => if keyIdx = index then some (.add delta) else none
  | _ => none

def slotOps (index : UInt64) (transactions : List Transaction) : List SlotOp :=
  transactions.filterMap fun tx => slotOp index (decode tx.instructionData)

theorem slot_ops_cons (index : UInt64) (tx : Transaction) (rest : List Transaction) :
    slotOps index (tx :: rest) = match slotOp index (decode tx.instructionData) with
      | none => slotOps index rest
      | some op => op :: slotOps index rest := by
  rw [slotOps, List.filterMap_cons]
  cases slotOp index (decode tx.instructionData) <;> rfl

def HostLeaves (maxCuPerTx : UInt64) (mode : OverflowMode) (transactions : List Transaction)
    (final : State) : Prop :=
  ∃ results, runSteps (hostStep (.new maxCuPerTx) mode) (initialAccounts transactions)
    (transactions.map transactionCall) = some (final, results)

/-! ## The order of additions -/

theorem saturating_add_eq_min (left right : UInt64) :
    saturatingAdd left right = UInt64.ofNat (min (2 ^ 64 - 1) (left.toNat + right.toNat)) := by
  rw [saturatingAdd]
  split_ifs with fits
  · rw [Nat.min_eq_right (by omega), UInt64.ofNat_add, UInt64.ofNat_toNat, UInt64.ofNat_toNat]
  · rw [Nat.min_eq_left (by omega)]

/-- Where it saturates, the sum has passed the limit in either order. -/
theorem additions_commute (slot : Option UInt64) (first second : UInt64) :
    SlotOp.apply (SlotOp.apply slot (.add first)) (.add second) =
      SlotOp.apply (SlotOp.apply slot (.add second)) (.add first) := by
  have value (total : Nat) : (UInt64.ofNat (min (2 ^ 64 - 1) total)).toNat =
      min (2 ^ 64 - 1) total := by
    apply UInt64.toNat_ofNat_of_lt'
    have limit : min (2 ^ 64 - 1) total ≤ 2 ^ 64 - 1 := Nat.min_le_left _ _
    change _ < 2 ^ 64
    omega
  simp only [SlotOp.apply, Option.getD_some, value]
  congr 2
  omega

theorem additions_perm {left right : List SlotOp} (same : left.Perm right)
    (additions : ∀ op ∈ left, ∃ delta, op = .add delta) : slotValue left = slotValue right := by
  apply same.foldl_eq'
  intro first firstMember second secondMember slot
  obtain ⟨delta, rfl⟩ := additions first firstMember
  obtain ⟨other, rfl⟩ := additions second secondMember
  exact additions_commute slot delta other

/-! ## One instruction, one run -/

section Runs

variable {index : UInt64} {mode : OverflowMode} {state next : State} {sender : String}

theorem data_key_injective {left right : UInt64} (same : dataKey left = dataKey right) :
    left = right := by
  rw [← data_index_data_key left, same, data_index_data_key]

theorem data_slot_insert (state : State) (keyIdx index value : UInt64) :
    (state.insert (dataKey keyIdx) value)[dataKey index]? =
      if keyIdx = index then some value else state[dataKey index]? := by
  rw [insert_get]
  by_cases own : keyIdx = index
  · rw [own, if_pos rfl, if_pos rfl]
  · have apart : dataKey keyIdx ≠ dataKey index := fun same => own (data_key_injective same)
    rw [if_neg apart, if_neg own]

theorem performs_slot {instruction : Instruction} {outcome : Outcome}
    (performs : Performs mode state sender instruction next outcome)
    (foreign : sender ≠ dataKey index) :
    next[dataKey index]? = match slotOp index instruction with
      | none => state[dataKey index]?
      | some op => op.apply state[dataKey index]? := by
  cases performs with
  | @transferred amount targetIdx credited covered added =>
      have target : accountKey targetIdx ≠ dataKey index := by
        intro same
        exact account_key_is_account targetIdx ⟨index, same⟩
      rw [insert_get, if_neg target, insert_get, if_neg foreign]
      rfl
  | @stored keyIdx value =>
      rw [data_slot_insert, slotOp]
      split_ifs with own
      · rfl
      · rfl
  | @incremented keyIdx delta =>
      rw [data_slot_insert, slotOp]
      split_ifs with own
      · rw [own, saturating_add_eq_min]
        rfl
      · rfl
  | idle => rfl
  | overdrawn short => rfl
  | refusedEmpty => rfl
  | refusedTruncated => rfl
  | refusedUnknown => rfl

theorem run_slot {transactions : List Transaction} {final : State} {outcomes : List Outcome}
    (ran : run mode state (transactions.map transactionCall) = some (final, outcomes))
    (foreign : ∀ tx ∈ transactions, tx.sender ≠ dataKey index) :
    final[dataKey index]? = (slotOps index transactions).foldl SlotOp.apply
      state[dataKey index]? := by
  induction transactions generalizing state outcomes with
  | nil =>
      cases ran
      rfl
  | cons tx rest ih =>
      obtain ⟨middle, outcome, later, performed, continued, _⟩ := run_steps_cons_some ran
      have own := performs_slot (perform_spec performed) (foreign tx (by simp))
      have others := ih continued (fun tx member => foreign tx (by simp [member]))
      rw [others, own, slot_ops_cons, transactionCall]
      cases slotOp index (decode tx.instructionData) with
      | none => rfl
      | some op => rfl

theorem host_slot {maxCuPerTx : UInt64} {transactions : List Transaction} {final : State}
    (left : HostLeaves maxCuPerTx mode transactions final)
    (foreign : ∀ tx ∈ transactions, tx.sender ≠ dataKey index) :
    final[dataKey index]? = slotValue (slotOps index transactions) := by
  obtain ⟨results, ran⟩ := left
  rw [host_run_eq, Option.map_eq_some_iff] at ran
  obtain ⟨⟨last, outcomes⟩, performed, same⟩ := ran
  cases same
  have absent : (initialAccounts transactions)[dataKey index]? = none := by
    rw [initialAccounts, initial_get, if_neg]
    intro member
    obtain ⟨tx, listed, own⟩ := List.mem_map.mp member
    exact foreign tx listed own
  rw [run_slot performed foreign, absent, slotValue]

end Runs

theorem host_leaves_wrapping (maxCuPerTx : UInt64) (transactions : List Transaction) :
    ∃ final, HostLeaves maxCuPerTx .wrapping transactions final := by
  obtain ⟨final, outcomes, ran⟩ :=
    run_wrapping_total (initialAccounts transactions) (transactions.map transactionCall)
  use final
  rw [HostLeaves, host_run_eq, ran]
  exact ⟨_, rfl⟩

theorem host_leaves_executed {hashBytes : HashBytes} {maxCuPerTx : UInt64} {mode : OverflowMode}
    {batch : Batch} {transactions : List Transaction} {trace : ExecutionTrace}
    (executed : (FullExecutor.new maxCuPerTx).executeWithTransactions hashBytes mode batch
      transactions = some trace) :
    ∃ final built, HostLeaves maxCuPerTx mode transactions final ∧
      (FullExecutor.new maxCuPerTx).loopAfter hashBytes mode batch transactions
        transactions.length = some (final, built) ∧ trace = built.build hashBytes final := by
  rw [execute_with_transactions_eq, Option.map_eq_some_iff] at executed
  obtain ⟨⟨final, built⟩, looped, same⟩ := executed
  have left := loop_after_some looped
  rw [List.take_length] at left
  exact ⟨final, built, left, looped, same.symm⟩

/-- A slot that is nobody's account holds the fold of its own operations. Lists with
the same operations on it agree there, and additions alone do so in any order. -/
theorem data_slot_is_own_fold (index maxCuPerTx : UInt64) (transactions : List Transaction)
    (foreign : ∀ tx ∈ transactions, tx.sender ≠ dataKey index) :
    (∃ final, HostLeaves maxCuPerTx .wrapping transactions final) ∧
    (∀ hashBytes mode batch trace,
      (FullExecutor.new maxCuPerTx).executeWithTransactions hashBytes mode batch transactions =
        some trace →
      ∃ final built, HostLeaves maxCuPerTx mode transactions final ∧
        (FullExecutor.new maxCuPerTx).loopAfter hashBytes mode batch transactions
          transactions.length = some (final, built) ∧ trace = built.build hashBytes final) ∧
    ∀ mode final, HostLeaves maxCuPerTx mode transactions final →
      final[dataKey index]? = slotValue (slotOps index transactions) ∧
      ∀ others otherMode otherFinal, (∀ tx ∈ others, tx.sender ≠ dataKey index) →
        HostLeaves maxCuPerTx otherMode others otherFinal →
        (slotOps index transactions = slotOps index others →
          final[dataKey index]? = otherFinal[dataKey index]?) ∧
        ((slotOps index transactions).Perm (slotOps index others) →
          (∀ op ∈ slotOps index transactions, ∃ delta, op = .add delta) →
          final[dataKey index]? = otherFinal[dataKey index]?) := by
  refine ⟨host_leaves_wrapping maxCuPerTx transactions, ?_, ?_⟩
  · intro hashBytes mode batch trace executed
    exact host_leaves_executed executed
  · intro mode final left
    have own := host_slot left foreign
    refine ⟨own, ?_⟩
    intro others otherMode otherFinal otherForeign otherLeft
    rw [own, host_slot otherLeft otherForeign]
    constructor
    · intro same
      rw [same]
    · exact additions_perm

/-- Two increments of slot 5 past the limit, with a payment and a truncated one between. -/
def saturating : List Transaction :=
  [{ Transaction.new ⟨"a"⟩ "alice" "program" with
      instructionData := 2 :: (toLeBytes 5 ++ toLeBytes 18446744073709551615) },
    { Transaction.new ⟨"b"⟩ "bob" "program" with instructionData := transferBytes 9 7 },
    { Transaction.new ⟨"c"⟩ "alice" "program" with instructionData := [2, 5] },
    { Transaction.new ⟨"d"⟩ "carol" "program" with
      instructionData := 2 :: (toLeBytes 5 ++ toLeBytes 3) }]

theorem saturating_slot :
    ∃ final, HostLeaves 200000 .wrapping saturating final ∧
      final[dataKey 5]? = some 18446744073709551615 := by
  obtain ⟨⟨final, left⟩, _, fold⟩ := data_slot_is_own_fold 5 200000 saturating (by decide)
  have ops : slotValue (slotOps 5 saturating) = some 18446744073709551615 := by decide +kernel
  rw [← ops]
  exact ⟨final, left, (fold .wrapping final left).1⟩

end CatalystSvm.DataSlots
