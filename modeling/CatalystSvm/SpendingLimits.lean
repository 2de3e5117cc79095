import CatalystSvm.BalanceSafety
import CatalystSvm.GeneratedWorkloads
import CatalystSvm.ProvabilityBoundary

/-!
# Batches whose senders can pay

A sender whose name is neither a transfer target nor a data key is debited by its own
transfers and by nothing else. A batch that sends no more than the initial balance of
each such sender runs through without an overdraft, so that an unknown opcode is all
that can keep it from being proved. The senders and the amounts of the workload
generator are of this kind.
-/

namespace CatalystSvm.SpendingLimits

open CatalystSvm.CommonTypes CatalystSvm.CommonMerkle CatalystSvm.MachineArithmetic
open CatalystSvm.LedgerMachine CatalystSvm.ExecutionEngine CatalystSvm.ProverInputs
open CatalystSvm.InterpreterSimulation CatalystSvm.BatchContinuity
open CatalystSvm.ValueConservation CatalystSvm.BalanceSafety CatalystSvm.ProvabilityBoundary
open CatalystSvm.Ingress CatalystSvm.GeneratedWorkloads CatalystSvm.Library.StepFold

set_option autoImplicit false

/-- No instruction of another sender writes this balance. -/
structure Outsider (key : String) : Prop where
  account : IsAccount key
  noTarget : ∀ index, accountKey index ≠ key

def outgoing (sender : String) (tx : Transaction) : Nat :=
  if tx.sender = sender then
    match decode tx.instructionData with
    | .transfer amount _ => amount.toNat
    | _ => 0
  else 0

def spending (sender : String) (transactions : List Transaction) : Nat :=
  (transactions.map (outgoing sender)).sum

theorem spending_append (sender : String) (first second : List Transaction) :
    spending sender (first ++ second) = spending sender first + spending sender second := by
  rw [spending, List.map_append, List.sum_append]
  rfl

theorem spending_perm (sender : String) {first second : List Transaction}
    (same : first.Perm second) : spending sender first = spending sender second :=
  (same.map (outgoing sender)).sum_eq

theorem outsider_not_data {key : String} (outsider : Outsider key) (index : UInt64) :
    dataKey index ≠ key := by
  intro same
  exact outsider.account ⟨index, same.symm⟩

theorem outsider_debit {mode : OverflowMode} {state next : State} {tx : Transaction}
    {outcome : Outcome} {key : String} (outsider : Outsider key)
    (performed : performCall mode state (transactionCall tx) = some (next, outcome)) :
    (balanceOf state key).toNat ≤ (balanceOf next key).toNat + outgoing key tx := by
  have shape := perform_spec performed
  change Performs mode state tx.sender (decode tx.instructionData) next outcome at shape
  rw [outgoing]
  generalize decode tx.instructionData = instruction at shape ⊢
  cases shape with
  | @transferred amount targetIdx credited covered added =>
      have elsewhere := outsider.noTarget targetIdx
      rw [balanceOf, balanceOf, insert_get, if_neg elsewhere, insert_get]
      by_cases own : tx.sender = key
      · have paid := UInt64.toNat_sub_of_le _ _ covered
        rw [own, balanceOf] at paid
        simp only [own, if_true, Option.getD_some]
        rw [balanceOf, paid]
        omega
      · simp only [own, if_false]
        exact Nat.le_add_right _ _
  | stored =>
      rw [balanceOf, balanceOf, insert_get, if_neg (outsider_not_data outsider _)]
      exact Nat.le_add_right _ _
  | incremented =>
      rw [balanceOf, balanceOf, insert_get, if_neg (outsider_not_data outsider _)]
      exact Nat.le_add_right _ _
  | _ => exact Nat.le_add_right _ _

/-- Every sender holds what it is still going to send. -/
def Solvent (state : State) (transactions : List Transaction) : Prop :=
  ∀ tx ∈ transactions, Outsider tx.sender ∧
    spending tx.sender transactions ≤ (balanceOf state tx.sender).toNat

theorem solvent_step {mode : OverflowMode} {state next : State} {tx : Transaction}
    {rest : List Transaction} {outcome : Outcome} (solvent : Solvent state (tx :: rest))
    (performed : performCall mode state (transactionCall tx) = some (next, outcome)) :
    Solvent next rest := by
  intro other member
  obtain ⟨outsider, covered⟩ := solvent other (List.mem_cons_of_mem _ member)
  have debit := outsider_debit outsider performed
  rw [spending, List.map_cons, List.sum_cons] at covered
  refine ⟨outsider, ?_⟩
  rw [spending]
  omega

theorem solvent_not_overdrawn {mode : OverflowMode} {state next : State} {tx : Transaction}
    {rest : List Transaction} {outcome : Outcome} (solvent : Solvent state (tx :: rest))
    (performed : performCall mode state (transactionCall tx) = some (next, outcome)) :
    isOverdrawn outcome = false := by
  have covered := (solvent tx List.mem_cons_self).2
  rw [spending, List.map_cons, List.sum_cons, outgoing, if_pos rfl] at covered
  have shape := perform_spec performed
  change Performs mode state tx.sender (decode tx.instructionData) next outcome at shape
  generalize decode tx.instructionData = instruction at shape covered
  cases shape with
  | overdrawn short =>
      rw [UInt64.lt_iff_toNat_lt] at short
      simp only at covered
      omega
  | _ => rfl

theorem solvent_run {mode : OverflowMode} {state final : State} {transactions : List Transaction}
    {outcomes : List Outcome} (solvent : Solvent state transactions)
    (ran : run mode state (transactions.map transactionCall) = some (final, outcomes)) :
    outcomes.countP isOverdrawn = 0 := by
  induction transactions generalizing state outcomes with
  | nil =>
      cases ran
      rfl
  | cons tx rest ih =>
      obtain ⟨next, outcome, others, performed, continued, same⟩ := run_steps_cons_some ran
      have paid := solvent_not_overdrawn solvent performed
      rw [same, List.countP_cons, paid, ih (solvent_step solvent performed) continued]
      rfl

/-! ## Batches -/

/-- A stream of which every batch can be executed and paid. -/
structure Payable (transactions : List Transaction) : Prop where
  outsiders : ∀ tx ∈ transactions, Outsider tx.sender
  covered : ∀ sender, spending sender transactions ≤ 1000000
  few : 1000000 * (distinctSenders transactions).card < 2 ^ 64
  short : 5000 * transactions.length < 2 ^ 64

theorem payable_perm {first second : List Transaction} (same : first.Perm second)
    (payable : Payable second) : Payable first where
  outsiders tx member := payable.outsiders tx (same.mem_iff.mp member)
  covered sender := by
    rw [spending_perm sender same]
    exact payable.covered sender
  few := by
    have senders : distinctSenders first = distinctSenders second :=
      List.toFinset_eq_of_perm _ _ (same.map _)
    rw [senders]
    exact payable.few
  short := by
    rw [same.length_eq]
    exact payable.short

theorem payable_part {before middle after : List Transaction}
    (payable : Payable (before ++ middle ++ after)) : Payable middle where
  outsiders tx member := payable.outsiders tx (by simp [member])
  covered sender := by
    have whole := payable.covered sender
    rw [spending_append, spending_append] at whole
    omega
  few := by
    have fewer : (distinctSenders middle).card ≤
        (distinctSenders (before ++ middle ++ after)).card := by
      apply Finset.card_le_card
      intro sender member
      simp only [distinctSenders, List.mem_toFinset, List.map_append, List.mem_append] at member ⊢
      exact .inl (.inr member)
    have whole := payable.few
    omega
  short := by
    have whole := payable.short
    rw [List.length_append, List.length_append] at whole
    omega

section Batches

variable {transactions : List Transaction} {hashBytes : HashBytes} {mode : OverflowMode}
variable {batch : Batch} {trace : ExecutionTrace}

theorem payable_solvent (payable : Payable transactions) :
    Solvent (proverInitialState transactions) transactions := by
  intro tx member
  have funded : tx.sender ∈ distinctSenders transactions := by
    rw [distinctSenders, List.mem_toFinset]
    exact List.mem_map_of_mem member
  have balance : balanceOf (proverInitialState transactions) tx.sender = 1000000 := by
    have initial := initial_balance transactions tx.sender
    rwa [if_pos funded] at initial
  rw [balance]
  exact ⟨payable.outsiders tx member, payable.covered tx.sender⟩

theorem payable_executes (payable : Payable transactions) (hashBytes : HashBytes)
    (mode : OverflowMode) (batch : Batch) :
    ∃ trace, (FullExecutor.new 200000).executeWithTransactions hashBytes mode batch transactions =
      some trace := by
  cases mode with
  | wrapping =>
      exact execute_submissions_wrapping_total hashBytes (.new 200000) rfl batch
        (transactions.map submissionOf)
  | panicking =>
      apply (executes_iff_balances_fit hashBytes 200000 batch transactions payable.short).mpr
      apply balances_fit_of_few 200000 _ _ payable.few
      · intro tx member
        rw [distinctSenders, List.mem_toFinset]
        exact List.mem_map_of_mem member
      · intro sender member
        rw [distinctSenders, List.mem_toFinset, List.mem_map] at member
        obtain ⟨tx, listed, own⟩ := member
        rw [← own]
        exact (payable.outsiders tx listed).account

/-- The checks find nothing in a payable batch, so it does not matter which side makes them. -/
theorem payable_ledger_run (payable : Payable transactions) {final : State}
    {outcomes : List Outcome}
    (ledger : LedgerRun hashBytes 200000 mode transactions trace final outcomes)
    (other : OverflowMode) :
    LedgerRun hashBytes 200000 other transactions trace final outcomes := by
  obtain ⟨checked, executed⟩ := payable_executes payable hashBytes .panicking (.new "" 0)
  obtain ⟨last, results, strict⟩ := ledger_run_of_executed executed
  cases (run_checked strict.ran mode).symm.trans ledger.ran
  have total := (accumulate_checked strict.accumulated mode).symm.trans ledger.accumulated
  exact { ledger with
    ran := run_checked strict.ran other
    accumulated := (accumulate_checked strict.accumulated other).trans total }

theorem payable_provable_iff (payable : Payable transactions) (filled : transactions ≠ [])
    (executed : (FullExecutor.new 200000).executeWithTransactions hashBytes mode batch
      transactions = some trace) (guestMode : OverflowMode) :
    (∃ committed, GuestProgram.main hashBytes guestMode (proveStdin trace transactions) =
        some committed) ↔
      ∀ tx ∈ transactions, unknownOpcode tx = false := by
  obtain ⟨final, outcomes, hostLedger⟩ := ledger_run_of_executed executed
  have ledger := payable_ledger_run payable hostLedger guestMode
  have paid := solvent_run (payable_solvent payable) ledger.ran
  rw [prove_stdin_of_nonempty trace transactions filled,
    accepted_iff_no_divergent (by decide) payable.short ledger, paid, Nat.zero_add,
    List.countP_eq_zero]
  simp only [Bool.not_eq_true]

end Batches

/-! ## Generated workloads -/

section Workloads

variable {Source : Type} {rng : Rng Source} {mode : OverflowMode}

theorem generated_sender_is_outsider (number : Nat) : Outsider ("sender_" ++ toString number) where
  account := generated_sender_is_account number
  noTarget index same := by
    have heads := congrArg (fun text => text.toList.head?) same
    simp only [accountKey, String.toList_append] at heads
    cases heads

/-- The senders and the instructions that the generator can draw. -/
structure Generated (rng : Rng Source) (tx : Transaction) : Prop where
  sender : ∃ number, number < 100 ∧ tx.sender = "sender_" ++ toString number
  instruction : ∃ source, tx.instructionData = (generateInstruction rng source).1

theorem next_generated {generator later : WorkloadGenerator Source} {tx : Transaction}
    (stepped : generator.next rng mode = some (some (tx, later))) : Generated rng tx := by
  rw [WorkloadGenerator.next] at stepped
  by_cases finished : generator.txCount ≤ generator.generated
  · rw [if_pos finished] at stepped
    cases stepped
  · rw [if_neg finished] at stepped
    simp only [bind, Option.bind_eq_some_iff, Option.some.injEq, Prod.mk.injEq] at stepped
    obtain ⟨arrival, _, currentTimeMs, _, made, _⟩ := stepped
    rw [← made]
    exact ⟨⟨_, (rng.genRange .i32 0 100 (by decide) arrival.2).1.below, rfl⟩, ⟨_, rfl⟩⟩

theorem collect_generated {generator : WorkloadGenerator Source} {fuel : Nat}
    {transactions : List Transaction}
    (collected : generator.collect rng mode fuel = some transactions) :
    ∀ tx ∈ transactions, Generated rng tx := by
  induction fuel generalizing generator transactions with
  | zero => cases collected
  | succ fuel ih =>
      cases stepped : generator.next rng mode with
      | none => simp [WorkloadGenerator.collect, stepped] at collected
      | some call =>
          cases call with
          | none =>
              simp only [WorkloadGenerator.collect, stepped, bind, Option.bind_some,
                Option.some.injEq] at collected
              simp [← collected]
          | some made =>
              obtain ⟨tx, later⟩ := made
              simp only [WorkloadGenerator.collect, stepped, bind, Option.bind_some,
                Option.bind_eq_some_iff, Option.some.injEq] at collected
              obtain ⟨rest, continued, same⟩ := collected
              intro other member
              rw [← same] at member
              cases List.mem_cons.mp member with
              | inl first =>
                  rw [first]
                  exact next_generated stepped
              | inr further => exact ih continued other further

theorem drawn_amount {source : Source} {amount target : UInt64}
    (drawn : drawnInstruction rng source = .transfer amount target) : amount.toNat < 1000 := by
  unfold drawnInstruction at drawn
  cases opcodeDraw : rng.genRange .u8 0 5 (by decide) source with
  | mk opcode rest =>
      rw [opcodeDraw] at drawn
      obtain ⟨value, above, below⟩ := opcode
      match value, below with
      | 0, _ =>
          simp only [Instruction.transfer.injEq] at drawn
          rw [← drawn.1, draw_value _ (by decide)]
          exact (rng.genRange .u64 1 1000 (by decide) rest).1.below
      | 1, _ => cases drawn
      | 2, _ => cases drawn
      | 3, _ => cases drawn
      | 4, _ => cases drawn

theorem generated_outgoing {tx : Transaction} (generated : Generated rng tx) (sender : String) :
    outgoing sender tx ≤ if tx.sender = sender then 999 else 0 := by
  obtain ⟨source, bytes⟩ := generated.instruction
  have drawn := decode_encoded (generated_bytes rng source)
  rw [← bytes] at drawn
  rw [outgoing]
  split_ifs with own
  · cases instruction : decode tx.instructionData with
    | transfer amount target =>
        have small := drawn_amount (drawn.symm.trans instruction)
        simp only
        omega
    | _ => exact Nat.zero_le _
  · exact le_refl 0

theorem generated_spending {transactions : List Transaction}
    (generated : ∀ tx ∈ transactions, Generated rng tx) (sender : String) :
    spending sender transactions ≤ 999 * transactions.countP fun tx => tx.sender = sender := by
  induction transactions with
  | nil => exact Nat.zero_le _
  | cons tx rest ih =>
      have head := generated_outgoing (generated tx List.mem_cons_self) sender
      have tail := ih fun other member => generated other (List.mem_cons_of_mem _ member)
      rw [spending] at tail
      rw [spending, List.map_cons, List.sum_cons, List.countP_cons]
      by_cases own : tx.sender = sender
      · simp only [own, if_true, decide_true] at head ⊢
        omega
      · simp only [own, if_false, decide_false, Bool.false_eq_true] at head ⊢
        omega

def senderNames : Finset String :=
  (Finset.range 100).image fun number => "sender_" ++ toString number

theorem generated_senders {transactions : List Transaction}
    (generated : ∀ tx ∈ transactions, Generated rng tx) :
    distinctSenders transactions ⊆ senderNames := by
  intro sender member
  rw [distinctSenders, List.mem_toFinset, List.mem_map] at member
  obtain ⟨tx, listed, own⟩ := member
  obtain ⟨number, small, named⟩ := (generated tx listed).sender
  rw [senderNames, Finset.mem_image]
  exact ⟨number, Finset.mem_range.mpr small, named.symm.trans own⟩

/-- A sender that is drawn at most 1001 times cannot run out of a million. -/
theorem generated_payable {transactions : List Transaction}
    (generated : ∀ tx ∈ transactions, Generated rng tx)
    (modest : ∀ sender, (transactions.countP fun tx => tx.sender = sender) ≤ 1001) :
    Payable transactions := by
  have among := generated_senders generated
  have names : (distinctSenders transactions).card ≤ 100 :=
    (Finset.card_le_card among).trans (Finset.card_image_le.trans (by simp))
  constructor
  · intro tx member
    obtain ⟨number, _, named⟩ := (generated tx member).sender
    rw [named]
    exact generated_sender_is_outsider number
  · intro sender
    have total := generated_spending generated sender
    have count := modest sender
    omega
  · omega
  · have counted : transactions.length =
        ∑ sender ∈ distinctSenders transactions,
          (transactions.countP fun tx => tx.sender = sender) := by
      have counts := List.sum_toFinset_count_eq_length (transactions.map Transaction.sender)
      rw [List.length_map] at counts
      rw [← counts]
      apply Finset.sum_congr rfl
      intro sender _
      rw [List.count, List.countP_map]
      rfl
    have bounded := Finset.sum_le_card_nsmul (distinctSenders transactions) _ 1001
      fun sender _ => modest sender
    rw [← counted, Nat.nsmul_eq_mul] at bounded
    omega

end Workloads

end CatalystSvm.SpendingLimits
