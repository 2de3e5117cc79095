import Mathlib.Algebra.BigOperators.Group.Finset.Piecewise
import CatalystSvm.ValueConservation

/-!
# When no balance overflows

The debit of a transfer is guarded and an increment saturates, but the credit is a
plain addition. A sender whose name is a data key can write a balance into its own
account, and enough senders hold enough together: these are the two ways to
overflow it.
-/

namespace CatalystSvm.BalanceSafety

open CatalystSvm.CommonTypes CatalystSvm.CommonMerkle CatalystSvm.MachineArithmetic
open CatalystSvm.LedgerMachine CatalystSvm.ExecutionEngine CatalystSvm.ProverInputs
open CatalystSvm.InterpreterSimulation CatalystSvm.BatchContinuity
open CatalystSvm.ValueConservation CatalystSvm.Library.StepFold

set_option autoImplicit false

/-- No addition or subtraction on a balance leaves `u64`: the executor runs through
under the reading that panics. -/
def BalancesFit (maxCuPerTx : UInt64) (transactions : List Transaction) : Prop :=
  ∃ result, runSteps (hostStep (.new maxCuPerTx) .panicking) (initialAccounts transactions)
    (transactions.map transactionCall) = some result

/-- A transfer to another account that its sender can cover finds room there. -/
def FindsRoom (accounts : State) (tx : Transaction) : Prop :=
  match decode tx.instructionData with
  | .transfer amount targetIdx =>
      amount ≤ balanceOf accounts tx.sender → accountKey targetIdx ≠ tx.sender →
        (balanceOf accounts (accountKey targetIdx)).toNat + amount.toNat < 2 ^ 64
  | _ => True

def RoomThroughout (maxCuPerTx : UInt64) (transactions : List Transaction) : Prop :=
  ∀ count tx accounts results, transactions[count]? = some tx →
    runSteps (hostStep (.new maxCuPerTx) .wrapping) (initialAccounts transactions)
      ((transactions.take count).map transactionCall) = some (accounts, results) →
    FindsRoom accounts tx

/-! ## One list of transactions -/

theorem perform_wraps {state : State} {sender : String} {instruction : Instruction}
    {result : State × Outcome}
    (performed : perform .panicking state sender instruction = some result) :
    perform .wrapping state sender instruction = some result := by
  rcases result with ⟨next, outcome⟩
  apply perform_of_performs
  cases perform_spec performed with
  | transferred covered added =>
      refine .transferred covered ?_
      rw [add_u64_value added]
      rfl
  | overdrawn short => exact .overdrawn short
  | stored => exact .stored
  | incremented => exact .incremented
  | idle => exact .idle
  | refusedEmpty => exact .refusedEmpty
  | refusedTruncated => exact .refusedTruncated
  | refusedUnknown => exact .refusedUnknown

theorem run_checked {state : State} {calls : List Call} {result : State × List Outcome}
    (ran : run .panicking state calls = some result) (mode : OverflowMode) :
    run mode state calls = some result := by
  cases mode with
  | panicking => exact ran
  | wrapping => exact run_steps_agree (fun _ _ _ => perform_wraps) ran

theorem host_step_eq (maxCuPerTx : UInt64) (mode : OverflowMode) (state : State) (call : Call) :
    hostStep (.new maxCuPerTx) mode state call =
      (performCall mode state call).map fun result =>
        (result.1, hostReport (decode call.instructionData) result.2) :=
  execute_instruction_refines (.new maxCuPerTx) rfl mode state call.sender call.instructionData

theorem host_step_wraps (maxCuPerTx : UInt64) {state : State} {call : Call}
    {result : State × InstructionResult}
    (stepped : hostStep (.new maxCuPerTx) .panicking state call = some result) :
    hostStep (.new maxCuPerTx) .wrapping state call = some result := by
  rw [host_step_eq, Option.map_eq_some_iff] at stepped ⊢
  rcases stepped with ⟨performed, ran, reported⟩
  exact ⟨performed, perform_wraps ran, reported⟩

/-- Only a credit can stop an instruction, and one to the sender itself never does. -/
theorem performs_iff_room (accounts : State) (tx : Transaction) :
    (∃ result, performCall .panicking accounts (transactionCall tx) = some result) ↔
      FindsRoom accounts tx := by
  rw [FindsRoom]
  change (∃ result, perform .panicking accounts tx.sender (decode tx.instructionData) =
    some result) ↔ _
  cases decode tx.instructionData with
  | transfer amount targetIdx =>
      simp only [perform]
      by_cases short : balanceOf accounts tx.sender < amount
      · rw [if_pos short]
        refine iff_of_true ⟨_, rfl⟩ ?_
        intro covered
        exact absurd short (UInt64.not_lt.mpr covered)
      · have covered : amount ≤ balanceOf accounts tx.sender := UInt64.not_lt.mp short
        rw [if_neg short, sub_u64_of_le _ _ _ covered]
        simp only [bind, Option.bind_some, covered, true_imp_iff]
        by_cases own : accountKey targetIdx = tx.sender
        · -- The credit gives back what the debit took.
          have back : (balanceOf (accounts.insert tx.sender
              (balanceOf accounts tx.sender - amount)) (accountKey targetIdx)).toNat +
                amount.toNat < 2 ^ 64 := by
            rw [own, balanceOf, insert_get, if_pos rfl, Option.getD_some,
              UInt64.toNat_sub_of_le _ _ covered]
            rw [UInt64.le_iff_toNat_le] at covered
            have range := (balanceOf accounts tx.sender).toNat_lt
            omega
          rw [add_u64_exact _ _ _ back]
          refine iff_of_true ⟨_, rfl⟩ ?_
          intro different
          exact absurd own different
        · have untouched : balanceOf (accounts.insert tx.sender
              (balanceOf accounts tx.sender - amount)) (accountKey targetIdx) =
                balanceOf accounts (accountKey targetIdx) := by
            rw [balanceOf, insert_get, if_neg (Ne.symm own), balanceOf]
          simp only [untouched, ne_eq, own, not_false_eq_true, true_imp_iff, addU64]
          split_ifs with room
          · exact iff_of_true ⟨_, rfl⟩ room
          · refine iff_of_false ?_ room
            intro returned
            rcases returned with ⟨_, impossible⟩
            cases impossible
  | _ => exact iff_of_true ⟨_, rfl⟩ trivial

theorem steps_iff_room (maxCuPerTx : UInt64) (accounts : State) (tx : Transaction) :
    (∃ result, hostStep (.new maxCuPerTx) .panicking accounts (transactionCall tx) =
      some result) ↔ FindsRoom accounts tx := by
  rw [← performs_iff_room, host_step_eq]
  constructor
  · intro stepped
    rcases stepped with ⟨_, reported⟩
    rcases Option.map_eq_some_iff.mp reported with ⟨performed, ran, _⟩
    exact ⟨performed, ran⟩
  · intro ran
    rcases ran with ⟨performed, ran⟩
    rw [ran]
    exact ⟨_, rfl⟩

theorem balances_fit_iff_room (maxCuPerTx : UInt64) (transactions : List Transaction) :
    BalancesFit maxCuPerTx transactions ↔ RoomThroughout maxCuPerTx transactions := by
  rw [BalancesFit, run_steps_strict_iff (fun _ _ _ => host_step_wraps maxCuPerTx)]
  constructor
  · intro returns count tx accounts results taken reached
    rw [← steps_iff_room maxCuPerTx]
    refine returns count (transactionCall tx) accounts results ?_ ?_
    · rw [List.getElem?_map, taken]
      rfl
    · rwa [← List.map_take]
  · intro room count call accounts results taken reached
    rw [List.getElem?_map, Option.map_eq_some_iff] at taken
    rcases taken with ⟨tx, listed, own⟩
    rw [← List.map_take] at reached
    rw [← own, steps_iff_room]
    exact room count tx accounts results listed reached

/-! ## The lists over a set of senders -/

theorem balances_fit_iff_run (maxCuPerTx : UInt64) (transactions : List Transaction) :
    BalancesFit maxCuPerTx transactions ↔
      ∃ final outcomes, run .panicking (initialAccounts transactions)
        (transactions.map transactionCall) = some (final, outcomes) := by
  rw [BalancesFit, host_run_eq]
  constructor
  · intro fits
    rcases fits with ⟨_, reported⟩
    rcases Option.map_eq_some_iff.mp reported with ⟨⟨final, outcomes⟩, ran, _⟩
    exact ⟨final, outcomes, ran⟩
  · intro completes
    rcases completes with ⟨final, outcomes, ran⟩
    rw [ran]
    exact ⟨_, rfl⟩

theorem run_host_compute (executor : DeterministicExecutor) {mode : OverflowMode}
    {state final : State} {calls : List Call} {outcomes : List Outcome}
    (ran : run mode state calls = some (final, outcomes)) :
    ((outcomes.map (hostCompute executor)).map UInt64.toNat).sum ≤ 5000 * calls.length := by
  have costs : List.Forall₂ (fun _ outcome => (hostCompute executor outcome).toNat ≤ 5000)
      calls outcomes := by
    refine run_steps_forall ?_ ran
    intro current call next outcome performed
    cases outcome with
    | applied reads writes compute =>
        have modest := UInt64.le_iff_toNat_le.mp (perform_compute_le performed)
        exact Nat.le_trans (UInt64.le_iff_toNat_le.mp Std.min_le_left) modest
    | overdrawn needed available => exact Nat.zero_le _
    | refused => exact Nat.zero_le _
  clear ran
  induction costs with
  | nil => exact Nat.le_refl _
  | cons cost _ ih =>
      simp only [List.map_cons, List.sum_cons, List.length_cons]
      omega

theorem executes_iff_balances_fit (hashBytes : HashBytes) (maxCuPerTx : UInt64) (batch : Batch)
    (transactions : List Transaction) (small : 5000 * transactions.length < 2 ^ 64) :
    (∃ trace, (FullExecutor.new maxCuPerTx).executeWithTransactions hashBytes .panicking batch
      transactions = some trace) ↔ BalancesFit maxCuPerTx transactions := by
  rw [balances_fit_iff_run, ← submitted_calls, initialAccounts, ← submitted_senders]
  constructor
  · intro executes
    rcases executes with ⟨trace, executed⟩
    rcases execute_submissions_some hashBytes _ rfl .panicking batch _ trace executed with
      ⟨final, outcomes, ran, _⟩
    exact ⟨final, outcomes, ran⟩
  · intro completes
    rcases completes with ⟨final, outcomes, ran⟩
    have cost := run_host_compute (.new maxCuPerTx) ran
    rw [List.length_map, List.length_map] at cost
    rcases accumulate_exact .panicking 0 (outcomes.map (hostCompute (.new maxCuPerTx)))
      (by rw [UInt64.toNat_zero]; omega) with ⟨total, accumulated, _⟩
    exact execute_submissions_completes hashBytes _ rfl .panicking batch _ final outcomes total
      ran accumulated

theorem balances_fit_of_few (maxCuPerTx : UInt64) {senders : Finset String}
    {transactions : List Transaction} (known : ∀ tx ∈ transactions, tx.sender ∈ senders)
    (accounts : ∀ sender ∈ senders, IsAccount sender)
    (few : 1000000 * senders.card < 2 ^ 64) : BalancesFit maxCuPerTx transactions := by
  have owned : ∀ tx ∈ transactions, IsAccount tx.sender :=
    fun tx member => accounts tx.sender (known tx member)
  have among : distinctSenders transactions ⊆ senders := by
    intro sender member
    rw [distinctSenders, List.mem_toFinset, List.mem_map] at member
    rcases member with ⟨tx, listed, own⟩
    rw [← own]
    exact known tx listed
  have fewer := Finset.card_le_card among
  have callers : ∀ call ∈ transactions.map transactionCall, IsAccount call.sender := by
    intro call member
    rcases List.mem_map.mp member with ⟨tx, listed, own⟩
    rw [← own]
    exact owned tx listed
  have fits : heldValue (initialAccounts transactions) < 2 ^ 64 := by
    rw [initial_held transactions owned]
    omega
  rcases run_keeps_held maxCuPerTx .panicking _ callers fits with ⟨final, results, ran, _⟩
  exact ⟨_, ran⟩

def payment (amount : UInt64) (sender : String) : Transaction :=
  { Transaction.new ⟨"tx"⟩ sender "program" with instructionData := transferBytes amount 0 }

def mint (index : UInt64) (sender : String) : Transaction :=
  { Transaction.new ⟨"tx"⟩ sender "program" with
    instructionData := setDataBytes index (UInt64.ofNat (2 ^ 64 - 1)) }

theorem payment_credits {amount : UInt64} {sender : String} {state next : State}
    {outcome : Outcome} (other : sender ≠ accountKey 0)
    (covered : amount ≤ balanceOf state sender)
    (paid : performCall .panicking state (transactionCall (payment amount sender)) =
      some (next, outcome)) :
    (balanceOf next (accountKey 0)).toNat =
        (balanceOf state (accountKey 0)).toNat + amount.toNat ∧
      ∀ key, key ≠ sender → key ≠ accountKey 0 → balanceOf next key = balanceOf state key := by
  change perform .panicking state sender (decode (transferBytes amount 0)) = _ at paid
  rw [decode_transfer_bytes] at paid
  cases perform_spec paid with
  | overdrawn short => exact absurd covered (UInt64.not_le.mpr short)
  | transferred _ added =>
      have exactly := add_u64_panicking added
      have before (value : UInt64) :
          balanceOf (state.insert sender value) (accountKey 0) =
            balanceOf state (accountKey 0) := by
        rw [balanceOf, insert_get, if_neg other, balanceOf]
      rw [before] at exactly
      constructor
      · rw [balanceOf, insert_get, if_pos rfl]
        exact exactly
      · intro key notSender notTarget
        rw [balanceOf, insert_get, if_neg notTarget.symm, insert_get, if_neg notSender.symm,
          balanceOf]

theorem self_payment_keeps {mode : OverflowMode} {amount : UInt64} {state next : State}
    {outcome : Outcome}
    (paid : performCall mode state (transactionCall (payment amount (accountKey 0))) =
      some (next, outcome)) (key : String) : balanceOf next key = balanceOf state key := by
  change perform mode state (accountKey 0) (decode (transferBytes amount 0)) = _ at paid
  rw [decode_transfer_bytes] at paid
  cases perform_spec paid with
  | overdrawn short => rfl
  | transferred covered added =>
      have credited := add_u64_value added
      rw [balanceOf, insert_get, if_pos rfl, Option.getD_some, UInt64.sub_add_cancel] at credited
      rw [balanceOf, insert_get, insert_get, credited]
      split_ifs with own
      · rw [← own]
        rfl
      · rfl

theorem minted_payment_grows {index : UInt64} {state next : State} {outcomes : List Outcome}
    (ran : run .panicking state ([mint index (dataKey index),
      payment (UInt64.ofNat (2 ^ 64 - 1)) (dataKey index)].map transactionCall) =
        some (next, outcomes)) :
    (balanceOf next (accountKey 0)).toNat =
      (balanceOf state (accountKey 0)).toNat + (2 ^ 64 - 1) := by
  have other : dataKey index ≠ accountKey 0 := by
    intro same
    exact account_key_is_account 0 ⟨index, same.symm⟩
  rcases run_steps_cons_some ran with ⟨minted, _, _, stored, continued, _⟩
  rcases run_steps_cons_some continued with ⟨paid, _, _, transferred, ended, _⟩
  cases ended
  change perform .panicking state (dataKey index) (decode (setDataBytes index _)) = _ at stored
  rw [decode_set_data_bytes] at stored
  cases stored
  have covered : UInt64.ofNat (2 ^ 64 - 1) ≤
      balanceOf (state.insert (dataKey index) (UInt64.ofNat (2 ^ 64 - 1))) (dataKey index) := by
    rw [balanceOf, insert_get, if_pos rfl]
    exact UInt64.le_refl _
  rw [(payment_credits other covered transferred).1, balanceOf, insert_get, if_neg other,
    ← balanceOf]
  rfl

theorem data_sender_overflows (maxCuPerTx index : UInt64) :
    ¬BalancesFit maxCuPerTx
      [mint index (dataKey index), payment (UInt64.ofNat (2 ^ 64 - 1)) (dataKey index),
        mint index (dataKey index), payment (UInt64.ofNat (2 ^ 64 - 1)) (dataKey index)] := by
  rw [balances_fit_iff_run]
  intro completes
  rcases completes with ⟨final, outcomes, ran⟩
  let round := [mint index (dataKey index), payment (UInt64.ofNat (2 ^ 64 - 1)) (dataKey index)]
  change run .panicking _ ((round ++ round).map transactionCall) = _ at ran
  rw [List.map_append, run, run_steps_append, Option.bind_eq_some_iff] at ran
  rcases ran with ⟨⟨middle, earlier⟩, first, second⟩
  rcases Option.map_eq_some_iff.mp second with ⟨⟨last, later⟩, again, _⟩
  have once := minted_payment_grows first
  have twice : (balanceOf last (accountKey 0)).toNat =
      (balanceOf middle (accountKey 0)).toNat + (2 ^ 64 - 1) := minted_payment_grows again
  have range := (balanceOf last (accountKey 0)).toNat_lt
  omega

def contribution (sender : String) : Nat := if sender = accountKey 0 then 0 else 1000000

theorem payments_collect {senders : List String} (distinct : senders.Nodup) {state final : State}
    {outcomes : List Outcome}
    (funded : ∀ sender ∈ senders, sender ≠ accountKey 0 → balanceOf state sender = 1000000)
    (ran : run .panicking state ((senders.map (payment 1000000)).map transactionCall) =
      some (final, outcomes)) :
    (balanceOf final (accountKey 0)).toNat =
      (balanceOf state (accountKey 0)).toNat + (senders.map contribution).sum := by
  induction senders generalizing state outcomes with
  | nil =>
      cases ran
      rfl
  | cons sender rest ih =>
      rcases run_steps_cons_some ran with ⟨next, outcome, others, paid, continued, _⟩
      rw [List.nodup_cons] at distinct
      have notAgain : ∀ other ∈ rest, other ≠ sender := by
        intro other member same
        rw [same] at member
        exact distinct.1 member
      rw [List.map_cons, List.sum_cons, contribution]
      by_cases own : sender = accountKey 0
      · -- A payment to oneself, or one that is refused, changes no balance.
        rw [own] at paid
        have unchanged : ∀ key, balanceOf next key = balanceOf state key :=
          self_payment_keeps paid
        have later : ∀ other ∈ rest, other ≠ accountKey 0 → balanceOf next other = 1000000 := by
          intro other member different
          rw [unchanged]
          exact funded other (by simp [member]) different
        rw [ih distinct.2 later continued, unchanged, if_pos own, Nat.zero_add]
      · have covered : 1000000 ≤ balanceOf state sender := by
          rw [funded sender (by simp) own]
          exact UInt64.le_refl _
        rcases payment_credits own covered paid with ⟨credited, others⟩
        have later : ∀ other ∈ rest, other ≠ accountKey 0 → balanceOf next other = 1000000 := by
          intro other member different
          rw [others other (notAgain other member) different]
          exact funded other (by simp [member]) different
        rw [ih distinct.2 later continued, credited, if_neg own]
        exact Nat.add_assoc _ _ _

theorem initial_balance (transactions : List Transaction) (key : String) :
    balanceOf (initialAccounts transactions) key =
      if key ∈ distinctSenders transactions then 1000000 else 0 := by
  rw [balanceOf, initialAccounts, initial_get]
  simp only [distinctSenders, List.mem_toFinset]
  split_ifs <;> rfl

theorem many_senders_overflow (maxCuPerTx : UInt64) (senders : Finset String)
    (many : 2 ^ 64 ≤ 1000000 * senders.card) :
    ¬BalancesFit maxCuPerTx (senders.toList.map (payment 1000000)) := by
  rw [balances_fit_iff_run]
  intro completes
  rcases completes with ⟨final, outcomes, ran⟩
  have listed : distinctSenders (senders.toList.map (payment 1000000)) = senders := by
    ext sender
    simp [distinctSenders, payment, Transaction.new]
  have funded : ∀ sender ∈ senders.toList, sender ≠ accountKey 0 →
      balanceOf (initialAccounts (senders.toList.map (payment 1000000))) sender = 1000000 := by
    intro sender member _
    rw [initial_balance, listed, if_pos (Finset.mem_toList.mp member)]
  have collected := payments_collect senders.nodup_toList funded ran
  rw [initial_balance, listed, Finset.sum_map_toList] at collected
  have own : (if accountKey 0 ∈ senders then (1000000 : UInt64) else 0).toNat =
      ∑ sender ∈ senders, if sender = accountKey 0 then 1000000 else 0 := by
    rw [Finset.sum_ite_eq']
    split_ifs <;> rfl
  have each : ∀ sender ∈ senders,
      (if sender = accountKey 0 then 1000000 else 0) + contribution sender = 1000000 := by
    intro sender _
    rw [contribution]
    split_ifs <;> rfl
  rw [own, ← Finset.sum_add_distrib, Finset.sum_const_nat each] at collected
  have range := (balanceOf final (accountKey 0)).toNat_lt
  omega

/-- One list of transactions runs without overflow exactly when every credit finds
room. All lists over a set of senders do exactly when none of them is named like a
data key and what they are given fits into one balance. -/
theorem balances_fit_exactly (maxCuPerTx : UInt64) :
    (∀ transactions, BalancesFit maxCuPerTx transactions ↔
      RoomThroughout maxCuPerTx transactions) ∧
    ∀ senders : Finset String,
      (∀ transactions : List Transaction, (∀ tx ∈ transactions, tx.sender ∈ senders) →
        BalancesFit maxCuPerTx transactions) ↔
      (∀ sender ∈ senders, IsAccount sender) ∧ 1000000 * senders.card < 2 ^ 64 := by
  refine ⟨balances_fit_iff_room maxCuPerTx, ?_⟩
  intro senders
  constructor
  · intro fit
    constructor
    · intro sender member data
      rcases data with ⟨index, own⟩
      apply data_sender_overflows maxCuPerTx index
      apply fit
      intro tx listed
      simp only [List.mem_cons, List.not_mem_nil, or_false] at listed
      rw [own] at member
      rcases listed with same | same | same | same <;> rw [same] <;> exact member
    · by_contra many
      apply many_senders_overflow maxCuPerTx senders (Nat.le_of_not_lt many)
      apply fit
      intro tx listed
      rcases List.mem_map.mp listed with ⟨sender, member, own⟩
      rw [← own]
      exact Finset.mem_toList.mp member
  · intro both transactions known
    exact balances_fit_of_few maxCuPerTx known both.1 both.2

/-- The owner of `data_0` fills its own account twice and pays it out twice. -/
theorem data_0_overflows_account_0 :
    ¬BalancesFit 200000
      [mint 0 "data_0", payment 18446744073709551615 "data_0", mint 0 "data_0",
        payment 18446744073709551615 "data_0"] := by
  intro fits
  rcases fits with ⟨result, ran⟩
  have stopped : (runSteps (hostStep (.new 200000) .panicking)
      (initialAccounts [mint 0 "data_0", payment 18446744073709551615 "data_0", mint 0 "data_0",
        payment 18446744073709551615 "data_0"])
      ([mint 0 "data_0", payment 18446744073709551615 "data_0", mint 0 "data_0",
        payment 18446744073709551615 "data_0"].map transactionCall)).isNone = true := by
    decide +kernel
  rw [ran] at stopped
  cases stopped

end CatalystSvm.BalanceSafety
