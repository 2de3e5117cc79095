import CatalystSvm.Library.MapTotals
import CatalystSvm.Library.PaddedNumerals
import CatalystSvm.InterpreterSimulation
import CatalystSvm.BatchContinuity

/-!
# Conservation of value

Transfers move value between accounts, and the data instructions write only under
`data_N`. As long as no sender owns such a key, what the accounts hold together
stays what the senders were given, and while that fits into `u64` no balance can
overflow.
-/

namespace CatalystSvm.ValueConservation

open CatalystSvm.CommonTypes CatalystSvm.CommonMerkle CatalystSvm.MachineArithmetic
open CatalystSvm.LedgerMachine CatalystSvm.ExecutionEngine CatalystSvm.ProverInputs
open CatalystSvm.InterpreterSimulation CatalystSvm.BatchContinuity
open CatalystSvm.Library.MapTotals CatalystSvm.Library.PaddedNumerals
open CatalystSvm.Library.StepFold

set_option autoImplicit false

/-! ## Data keys -/

/-- The key of some `SetData` or `Increment`. -/
def IsDataKey (key : String) : Prop := ∃ index : UInt64, key = dataKey index

def dataIndex (key : String) : UInt64 := UInt64.ofNat (numeralValue 10 (key.toList.drop 5))

theorem data_index_data_key (index : UInt64) : dataIndex (dataKey index) = index := by
  have digits : (dataKey index).toList.drop 5 = Nat.toDigits 10 index.toNat := by
    change ("data_" ++ String.ofList (Nat.toDigits 10 index.toNat)).toList.drop 5 = _
    rw [String.toList_append, String.toList_ofList, String.toList_ofList]
    rfl
  rw [dataIndex, digits, numeral_value_to_digits (by decide) (by decide), UInt64.ofNat_toNat]

theorem is_data_key_iff (key : String) : IsDataKey key ↔ key = dataKey (dataIndex key) := by
  constructor
  · intro data
    rcases data with ⟨index, own⟩
    rw [own, data_index_data_key]
  · intro own
    exact ⟨_, own⟩

instance (key : String) : Decidable (IsDataKey key) :=
  decidable_of_iff (key = dataKey (dataIndex key)) (is_data_key_iff key).symm

/-- Every other key is a balance. -/
def IsAccount (key : String) : Prop := ¬IsDataKey key

instance (key : String) : Decidable (IsAccount key) :=
  inferInstanceAs (Decidable (¬IsDataKey key))

theorem is_account_of_head {key : String} {first : Char} (starts : key.toList.head? = some first)
    (other : first ≠ 'd') : IsAccount key := by
  intro data
  rcases data with ⟨index, own⟩
  have head : (dataKey index).toList.head? = some 'd' := by
    rw [dataKey, String.toList_append]
    rfl
  rw [own, head] at starts
  exact other (Option.some.inj starts).symm

theorem account_key_is_account (index : UInt64) : IsAccount (accountKey index) := by
  apply is_account_of_head _ (by decide : 'a' ≠ 'd')
  rw [accountKey, String.toList_append]
  rfl

theorem generated_sender_is_account (number : Nat) : IsAccount ("sender_" ++ toString number) := by
  apply is_account_of_head _ (by decide : 's' ≠ 'd')
  rw [String.toList_append]
  rfl

/-! ## What the accounts hold -/

/-- The sum of all balances that are not under a data key. -/
def heldValue (accounts : State) : Nat :=
  total IsAccount UInt64.toNat accounts

theorem worth_eq_balance (accounts : State) (key : String) :
    worth UInt64.toNat accounts key = (balanceOf accounts key).toNat := by
  rw [worth, balanceOf]
  cases accounts[key]? <;> rfl

theorem held_insert {key : String} (account : IsAccount key) (accounts : State)
    (value : UInt64) :
    heldValue (accounts.insert key value) + (balanceOf accounts key).toNat =
      heldValue accounts + value.toNat := by
  rw [← worth_eq_balance]
  exact total_insert account value

theorem held_insert_data (accounts : State) (index value : UInt64) :
    heldValue (accounts.insert (dataKey index) value) = heldValue accounts :=
  total_insert_of_not (fun account : IsAccount (dataKey index) => account ⟨index, rfl⟩) value

theorem balance_le_held {key : String} (account : IsAccount key) (accounts : State) :
    (balanceOf accounts key).toNat ≤ heldValue accounts := by
  rw [← worth_eq_balance]
  exact worth_le_total account

section Transfer

variable {state : State} {sender : String} {amount targetIdx : UInt64}

theorem debited_held (account : IsAccount sender) (covered : amount ≤ balanceOf state sender) :
    heldValue (state.insert sender (balanceOf state sender - amount)) + amount.toNat =
      heldValue state := by
  have debit := held_insert account state (balanceOf state sender - amount)
  rw [UInt64.toNat_sub_of_le _ _ covered] at debit
  rw [UInt64.le_iff_toNat_le] at covered
  omega

theorem transferred_held (account : IsAccount sender) (covered : amount ≤ balanceOf state sender)
    {credited : UInt64} (exactly : credited.toNat =
      (balanceOf (state.insert sender (balanceOf state sender - amount))
        (accountKey targetIdx)).toNat + amount.toNat) :
    heldValue ((state.insert sender (balanceOf state sender - amount)).insert
      (accountKey targetIdx) credited) = heldValue state := by
  have debit := debited_held account covered
  have credit := held_insert (account_key_is_account targetIdx)
    (state.insert sender (balanceOf state sender - amount)) credited
  omega

theorem credit_fits (account : IsAccount sender) (covered : amount ≤ balanceOf state sender)
    (fits : heldValue state < 2 ^ 64) :
    (balanceOf (state.insert sender (balanceOf state sender - amount))
      (accountKey targetIdx)).toNat + amount.toNat < 2 ^ 64 := by
  have debit := debited_held account covered
  have target := balance_le_held (account_key_is_account targetIdx)
    (state.insert sender (balanceOf state sender - amount))
  omega

end Transfer

theorem perform_keeps_held (mode : OverflowMode) {state : State} {sender : String}
    (account : IsAccount sender) (fits : heldValue state < 2 ^ 64) (instruction : Instruction) :
    ∃ next outcome, perform mode state sender instruction = some (next, outcome) ∧
      heldValue next = heldValue state := by
  cases instruction with
  | transfer amount targetIdx =>
      rw [perform]
      by_cases short : balanceOf state sender < amount
      · rw [if_pos short]
        exact ⟨_, _, rfl, rfl⟩
      · have covered : amount ≤ balanceOf state sender := UInt64.not_lt.mp short
        have room := @credit_fits state sender amount targetIdx account covered fits
        rw [if_neg short, sub_u64_of_le mode _ _ covered]
        simp only [bind, Option.bind_some, add_u64_exact mode _ _ room]
        refine ⟨_, _, rfl, transferred_held account covered ?_⟩
        rw [UInt64.toNat_add, Nat.mod_eq_of_lt room]
  | setData keyIdx value => exact ⟨_, _, rfl, held_insert_data _ _ _⟩
  | increment keyIdx delta => exact ⟨_, _, rfl, held_insert_data _ _ _⟩
  | noop => exact ⟨_, _, rfl, rfl⟩
  | empty => exact ⟨_, _, rfl, rfl⟩
  | truncated opcode => exact ⟨_, _, rfl, rfl⟩
  | unknown opcode => exact ⟨_, _, rfl, rfl⟩

/-! ## Where the value comes from -/

theorem insert_if_new_get (state : State) (key other : String) (value : UInt64) :
    (state.insertIfNew key value)[other]? =
      state[other]?.or (if key = other then some value else none) := by
  rw [Std.ExtTreeMap.getElem?_insertIfNew]
  simp only [Std.LawfulEqCmp.compare_eq_iff_eq]
  by_cases same : key = other
  · subst same
    by_cases present : key ∈ state
    · simp [present]
    · simp [present]
  · simp [same]

/-- Every sender, and nobody else, starts with a million. -/
theorem initial_get (senders : List String) (key : String) :
    (initialBalances senders)[key]? = if key ∈ senders then some 1000000 else none := by
  have folded : ∀ (rest : List String) (state : State),
      (rest.foldl (fun state sender => state.insertIfNew sender 1000000) state)[key]? =
        state[key]?.or (if key ∈ rest then some 1000000 else none) := by
    intro rest
    induction rest with
    | nil => simp
    | cons sender rest ih =>
        intro state
        rw [List.foldl_cons, ih, insert_if_new_get, Option.or_assoc]
        congr 1
        by_cases same : sender = key
        · simp [same]
        · simp [same, Ne.symm same]
  rw [initialBalances, folded]
  simp

def distinctSenders (transactions : List Transaction) : Finset String :=
  (transactions.map Transaction.sender).toFinset

theorem initial_held (transactions : List Transaction)
    (accounts : ∀ tx ∈ transactions, IsAccount tx.sender) :
    heldValue (initialAccounts transactions) =
      1000000 * (distinctSenders transactions).card := by
  have present (key : String) : key ∈ initialAccounts transactions ↔
      key ∈ transactions.map Transaction.sender := by
    rw [Std.ExtTreeMap.mem_iff_isSome_getElem?, initialAccounts, initial_get]
    split_ifs with member <;> simp [member]
  have keys : keptKeys IsAccount (initialAccounts transactions) =
      distinctSenders transactions := by
    ext key
    rw [mem_kept_keys, present, distinctSenders, List.mem_toFinset]
    constructor
    · intro both
      exact both.1
    · intro member
      rcases List.mem_map.mp member with ⟨tx, listed, own⟩
      rw [← own]
      exact ⟨List.mem_map_of_mem listed, accounts tx listed⟩
  have million : ∀ key ∈ distinctSenders transactions,
      worth UInt64.toNat (initialAccounts transactions) key = 1000000 := by
    intro key member
    rw [distinctSenders, List.mem_toFinset] at member
    rw [worth, initialAccounts, initial_get, if_pos member]
    rfl
  rw [heldValue, total, keys, Finset.sum_const_nat million, Nat.mul_comm]

/-! ## Whole runs -/

theorem run_keeps_held (maxCuPerTx : UInt64) (mode : OverflowMode) {state : State}
    (calls : List Call) (accounts : ∀ call ∈ calls, IsAccount call.sender)
    (fits : heldValue state < 2 ^ 64) :
    ∃ final results, runSteps (hostStep (.new maxCuPerTx) mode) state calls =
        some (final, results) ∧ heldValue final = heldValue state := by
  have each : ∀ (current : State) (call : Call), heldValue current = heldValue state →
      IsAccount call.sender → ∃ next outcome, performCall mode current call =
        some (next, outcome) ∧ heldValue next = heldValue state := by
    intro current call same account
    rcases perform_keeps_held mode account (by rwa [same]) (decode call.instructionData) with
      ⟨next, outcome, performed, kept⟩
    exact ⟨next, outcome, performed, kept.trans same⟩
  rcases run_steps_invariant each rfl accounts with ⟨final, outcomes, ran, kept⟩
  rw [host_run_eq, run, ran]
  exact ⟨final, _, rfl, kept⟩

section Loop

variable {hashBytes : HashBytes} {maxCuPerTx : UInt64} {mode : OverflowMode} {batch : Batch}
variable {transactions : List Transaction} {count : Nat} {final : State}

theorem loop_after_some {built : TraceBuilding.TraceBuilder}
    (looped : (FullExecutor.new maxCuPerTx).loopAfter hashBytes mode batch transactions count =
      some (final, built)) :
    ∃ results, runSteps (hostStep (.new maxCuPerTx) mode) (initialAccounts transactions)
      ((transactions.take count).map transactionCall) = some (final, results) := by
  obtain ⟨outcomes, ran, _⟩ := execute_loop_some hashBytes _ rfl mode _ _ _ _ _ _ looped
  rw [submitted_calls] at ran
  rw [host_run_eq, initialAccounts, ran]
  exact ⟨_, rfl⟩

/-- Only the sum of the compute can stop the loop where the ledger goes on. -/
theorem loop_after_wrapping {results : List InstructionResult}
    (ran : runSteps (hostStep (.new maxCuPerTx) .wrapping) (initialAccounts transactions)
      ((transactions.take count).map transactionCall) = some (final, results))
    (hashBytes : HashBytes) (batch : Batch) :
    ∃ built, (FullExecutor.new maxCuPerTx).loopAfter hashBytes .wrapping batch transactions count =
      some (final, built) := by
  rw [host_run_eq, Option.map_eq_some_iff] at ran
  obtain ⟨⟨last, outcomes⟩, performed, same⟩ := ran
  cases same
  rw [← submitted_calls] at performed
  obtain ⟨total, accumulated⟩ :=
    accumulate_wrapping_total 0 (outcomes.map (hostCompute (.new maxCuPerTx)))
  exact execute_loop_completes hashBytes _ rfl .wrapping _ _ _ _ _ _ total performed accumulated

end Loop

/-- No balance overflows, also under the reading that would panic, and after every
prefix of the list the accounts hold what the senders were given. This is the map of
`execute_with_transactions` there. -/
theorem value_conserved (maxCuPerTx : UInt64) (mode : OverflowMode)
    (transactions : List Transaction) (accounts : ∀ tx ∈ transactions, IsAccount tx.sender)
    (few : 1000000 * (distinctSenders transactions).card < 2 ^ 64) (count : Nat) :
    ∃ final results,
      runSteps (hostStep (.new maxCuPerTx) mode) (initialAccounts transactions)
        ((transactions.take count).map transactionCall) = some (final, results) ∧
      heldValue final = 1000000 * (distinctSenders transactions).card ∧
      ∀ hashBytes batch,
        (∀ last built, (FullExecutor.new maxCuPerTx).loopAfter hashBytes mode batch transactions
          count = some (last, built) → last = final) ∧
        (mode = .wrapping → ∃ built, (FullExecutor.new maxCuPerTx).loopAfter hashBytes mode batch
          transactions count = some (final, built)) := by
  have initially := initial_held transactions accounts
  have callers : ∀ call ∈ (transactions.take count).map transactionCall,
      IsAccount call.sender := by
    intro call member
    rcases List.mem_map.mp member with ⟨tx, taken, own⟩
    rw [← own]
    exact accounts tx (List.mem_of_mem_take taken)
  rw [← initially] at few ⊢
  obtain ⟨final, results, ran, held⟩ := run_keeps_held maxCuPerTx mode _ callers few
  refine ⟨final, results, ran, held, ?_⟩
  intro hashBytes batch
  constructor
  · intro last built looped
    obtain ⟨reports, again⟩ := loop_after_some looped
    rw [ran] at again
    cases again
    rfl
  · intro wraps
    subst wraps
    exact loop_after_wrapping ran hashBytes batch

/-- What the workload generator could write: one sender pays, another stores. -/
def generatedPair : List Transaction :=
  [{ Transaction.new ⟨"tx_000000"⟩ ("sender_" ++ toString 7) "program_0" with
      instructionData := [0, 5, 0, 0, 0, 0, 0, 0, 0, 7, 0, 0, 0, 0, 0, 0, 0] },
    { Transaction.new ⟨"tx_000001"⟩ ("sender_" ++ toString 8) "program_1" with
      instructionData := [1, 5, 0, 0, 0, 0, 0, 0, 0, 9, 0, 0, 0, 0, 0, 0, 0] }]

theorem generated_pair_keeps_two_millions :
    ∃ final results,
      runSteps (hostStep (.new 200000) .panicking) (initialAccounts generatedPair)
        ((generatedPair.take 2).map transactionCall) = some (final, results) ∧
      heldValue final = 2000000 := by
  have accounts : ∀ tx ∈ generatedPair, IsAccount tx.sender := by
    intro tx member
    simp only [generatedPair, List.mem_cons, List.not_mem_nil, or_false] at member
    rcases member with first | second
    · rw [first]
      exact generated_sender_is_account 7
    · rw [second]
      exact generated_sender_is_account 8
  obtain ⟨final, results, ran, held, _⟩ :=
    value_conserved 200000 .panicking generatedPair accounts (by decide) 2
  exact ⟨final, results, ran, held⟩

end CatalystSvm.ValueConservation
