import CatalystSvm.ProverInputs
import CatalystSvm.InterpreterSimulation

/-!
# Which executed batches can be proved

The host and the guest account differently for two kinds of failed transaction:
an overdrawn transfer and an unknown opcode. The host charges nothing and
records no reads, the guest charges 5000 and 500 and records the sender of the
transfer. Everything else is reported identically, so the provable batches are
exactly those without such a transaction.
-/

namespace CatalystSvm.ProvabilityBoundary

open CatalystSvm.CommonTypes CatalystSvm.CommonMerkle CatalystSvm.MachineArithmetic
open CatalystSvm.LedgerMachine CatalystSvm.ProverInputs CatalystSvm.InterpreterSimulation
open CatalystSvm.Library.MerkleLevels CatalystSvm.Library.StepFold
open CatalystSvm.ExecutionEngine (DeterministicExecutor FullExecutor hostText hostCompute
  submissionOf)
open CatalystSvm.GuestProgram (reports reportText reportTexts guestReport)

set_option autoImplicit false

def unknownOpcode (tx : Transaction) : Bool :=
  match tx.instructionData with
  | [] => false
  | opcode :: _ => decide (3 < opcode)

def insufficientBalance : ExecutionEngine.InstructionResult → Bool
  | .error (.insufficientBalance _ _) => true
  | _ => false

def emptyOrTooShort (tx : Transaction) : Bool :=
  match tx.instructionData with
  | [] => true
  | opcode :: operands => decide (opcode < 3) && decide (operands.length < 16)

def isOverdrawn : Outcome → Bool
  | .overdrawn _ _ => true
  | _ => false

/-- The two interpreters will disagree on this transaction in this state. -/
def diverges (state : State) (tx : Transaction) : Bool :=
  match decode tx.instructionData with
  | .transfer amount _ => decide (balanceOf state tx.sender < amount)
  | .unknown _ => true
  | _ => false

def DivergenceFree (mode : OverflowMode) : State → List Transaction → Prop
  | _, [] => True
  | state, tx :: rest => diverges state tx = false ∧
      ∀ next outcome, performCall mode state (transactionCall tx) = some (next, outcome) →
        DivergenceFree mode next rest

def Performed (call : Call) (outcome : Outcome) : Prop :=
  ∃ mode state next, performCall mode state call = some (next, outcome)

theorem run_performed {mode : OverflowMode} {state final : State}
    {transactions : List Transaction} {outcomes : List Outcome}
    (ran : run mode state (transactions.map transactionCall) = some (final, outcomes)) :
    List.Forall₂ (fun tx outcome => Performed (transactionCall tx) outcome)
      transactions outcomes := by
  have pairs : List.Forall₂ Performed (transactions.map transactionCall) outcomes := by
    apply run_steps_forall _ ran
    intro before call next outcome stepped
    exact ⟨mode, before, next, stepped⟩
  exact List.forall₂_map_left_iff.mp pairs

theorem unknown_opcode_eq (tx : Transaction) :
    unknownOpcode tx = match decode tx.instructionData with
      | .unknown _ => true
      | _ => false := by
  have shape := decode_spec tx.instructionData
  unfold unknownOpcode
  generalize tx.instructionData = data at shape ⊢
  generalize decode data = instruction at shape ⊢
  cases shape with
  | empty => rfl
  | unknown large => simpa using large
  | noop => rfl
  | truncated known short => rcases known with rfl | rfl | rfl <;> rfl
  | transfer long => rfl
  | setData long => rfl
  | increment long => rfl

section Pointwise

variable {executor : DeterministicExecutor} (cap : 5000 ≤ executor.maxCuPerTx)
variable {tx : Transaction} {outcome : Outcome}

include cap in
theorem capped_compute {compute : UInt64} (small : compute ≤ 5000) :
    min compute executor.maxCuPerTx = compute :=
  if_pos (UInt64.le_trans small cap)

include cap in
/-- The compute the guest charges beyond the host. -/
theorem guest_compute_eq (performed : Performed (transactionCall tx) outcome) :
    (guestReport tx.sender (decode tx.instructionData) outcome).compute.toNat =
      (hostCompute executor outcome).toNat + 5000 * (if isOverdrawn outcome then 1 else 0) +
        500 * (if unknownOpcode tx then 1 else 0) := by
  rcases performed with ⟨mode, state, next, stepped⟩
  rw [unknown_opcode_eq]
  change perform mode state tx.sender (decode tx.instructionData) = _ at stepped
  have shape := perform_spec stepped
  generalize decode tx.instructionData = instruction at shape ⊢
  cases shape with
  | transferred covered added =>
      simp [guestReport, hostCompute, isOverdrawn, capped_compute cap]
  | overdrawn short => simp [guestReport, hostCompute, isOverdrawn]
  | stored =>
      simp [guestReport, hostCompute, isOverdrawn,
        capped_compute cap (show (3000 : UInt64) ≤ 5000 by decide)]
  | incremented =>
      simp [guestReport, hostCompute, isOverdrawn,
        capped_compute cap (show (2000 : UInt64) ≤ 5000 by decide)]
  | idle =>
      simp [guestReport, hostCompute, isOverdrawn,
        capped_compute cap (show (1000 : UInt64) ≤ 5000 by decide)]
  | refusedEmpty => simp [guestReport, hostCompute, isOverdrawn]
  | refusedTruncated => simp [guestReport, hostCompute, isOverdrawn]
  | refusedUnknown => simp [guestReport, hostCompute, isOverdrawn]

theorem guest_compute_le (performed : Performed (transactionCall tx) outcome) :
    (guestReport tx.sender (decode tx.instructionData) outcome).compute.toNat ≤ 5000 := by
  rcases performed with ⟨mode, state, next, stepped⟩
  change perform mode state tx.sender (decode tx.instructionData) = _ at stepped
  cases outcome with
  | applied reads writes compute => exact perform_compute_le stepped
  | overdrawn needed available => exact le_refl 5000
  | refused =>
      generalize decode tx.instructionData = instruction
      cases instruction <;> simp [guestReport]

include cap in
theorem texts_agree (performed : Performed (transactionCall tx) outcome)
    (covered : isOverdrawn outcome = false)
    (known : unknownOpcode tx = false) :
    reportText (serializableTransaction tx)
        (guestReport tx.sender (decode tx.instructionData) outcome) =
      hostText executor (submissionOf tx) outcome := by
  rcases performed with ⟨mode, state, next, stepped⟩
  change perform mode state tx.sender (decode tx.instructionData) = _ at stepped
  cases outcome with
  | applied reads writes compute =>
      rw [hostText, capped_compute cap (perform_compute_le stepped)]
      rfl
  | overdrawn needed available => simp [isOverdrawn] at covered
  | refused =>
      rw [unknown_opcode_eq] at known
      cases instructionEq : decode tx.instructionData <;> rw [instructionEq] at known <;>
        first | rfl | cases known

include cap in
theorem computes_agree (performed : Performed (transactionCall tx) outcome)
    (covered : isOverdrawn outcome = false)
    (known : unknownOpcode tx = false) :
    (guestReport tx.sender (decode tx.instructionData) outcome).compute =
      hostCompute executor outcome := by
  apply UInt64.toNat_inj.mp
  rw [guest_compute_eq cap performed, covered, known]
  simp

end Pointwise

section Runs

variable {executor : DeterministicExecutor} (cap : 5000 ≤ executor.maxCuPerTx)
variable {transactions : List Transaction} {outcomes : List Outcome}

def guestComputes (transactions : List Transaction) (outcomes : List Outcome) : List UInt64 :=
  (reports (transactions.map serializableTransaction) outcomes).map
    GuestProgram.InstructionResult.compute

def guestTexts (transactions : List Transaction) (outcomes : List Outcome) : List String :=
  reportTexts (transactions.map serializableTransaction) outcomes

def hostTexts (executor : DeterministicExecutor) (transactions : List Transaction)
    (outcomes : List Outcome) : List String :=
  List.zipWith (hostText executor) (transactions.map submissionOf) outcomes

theorem guest_computes_cons (tx : Transaction) (rest : List Transaction) (outcome : Outcome)
    (others : List Outcome) :
    guestComputes (tx :: rest) (outcome :: others) =
      (guestReport tx.sender (decode tx.instructionData) outcome).compute ::
        guestComputes rest others := rfl

theorem guest_texts_cons (tx : Transaction) (rest : List Transaction) (outcome : Outcome)
    (others : List Outcome) :
    guestTexts (tx :: rest) (outcome :: others) =
      reportText (serializableTransaction tx)
          (guestReport tx.sender (decode tx.instructionData) outcome) ::
        guestTexts rest others := rfl

theorem host_texts_cons (tx : Transaction) (rest : List Transaction) (outcome : Outcome)
    (others : List Outcome) :
    hostTexts executor (tx :: rest) (outcome :: others) =
      hostText executor (submissionOf tx) outcome :: hostTexts executor rest others := rfl

include cap in
/-- Every divergent transaction adds its own constant to the guest's sum. -/
theorem guest_compute_sum
    (performed : List.Forall₂ (fun tx outcome => Performed (transactionCall tx) outcome)
      transactions outcomes) :
    ((guestComputes transactions outcomes).map UInt64.toNat).sum =
      ((outcomes.map (hostCompute executor)).map UInt64.toNat).sum +
        5000 * outcomes.countP isOverdrawn + 500 * transactions.countP unknownOpcode := by
  induction performed with
  | nil => rfl
  | @cons tx outcome rest others head tail ih =>
      rw [guest_computes_cons]
      simp only [List.map_cons, List.sum_cons, List.countP_cons]
      rw [guest_compute_eq cap head, ih]
      split_ifs <;> omega

theorem guest_compute_sum_le
    (performed : List.Forall₂ (fun tx outcome => Performed (transactionCall tx) outcome)
      transactions outcomes) :
    ((guestComputes transactions outcomes).map UInt64.toNat).sum ≤ 5000 * transactions.length := by
  induction performed with
  | nil => simp [guestComputes, reports]
  | @cons tx outcome rest others head tail ih =>
      rw [guest_computes_cons]
      simp only [List.map_cons, List.sum_cons, List.length_cons]
      have bound := guest_compute_le head
      omega

include cap in
theorem lists_agree
    (performed : List.Forall₂ (fun tx outcome => Performed (transactionCall tx) outcome)
      transactions outcomes)
    (covered : outcomes.countP isOverdrawn = 0) (known : transactions.countP unknownOpcode = 0) :
    guestTexts transactions outcomes = hostTexts executor transactions outcomes ∧
      guestComputes transactions outcomes = outcomes.map (hostCompute executor) := by
  induction performed with
  | nil => exact ⟨rfl, rfl⟩
  | @cons tx outcome rest others head tail ih =>
      rw [List.countP_eq_zero] at covered known
      have headCovered : isOverdrawn outcome = false := by simpa using covered outcome (by simp)
      have headKnown : unknownOpcode tx = false := by simpa using known tx (by simp)
      have rests := ih
        (List.countP_eq_zero.mpr fun other member => covered other (by simp [member]))
        (List.countP_eq_zero.mpr fun other member => known other (by simp [member]))
      rw [guest_texts_cons, host_texts_cons, guest_computes_cons, List.map_cons]
      rw [texts_agree cap head headCovered headKnown, computes_agree cap head headCovered headKnown,
        rests.1, rests.2]
      exact ⟨rfl, rfl⟩

theorem divergence_free_iff {mode : OverflowMode} {state final : State}
    (ran : run mode state (transactions.map transactionCall) = some (final, outcomes)) :
    DivergenceFree mode state transactions ↔
      outcomes.countP isOverdrawn + transactions.countP unknownOpcode = 0 := by
  induction transactions generalizing state outcomes with
  | nil =>
      simp only [List.map_nil, run, runSteps, Option.some.injEq, Prod.mk.injEq] at ran
      simp [DivergenceFree, ← ran.2]
  | cons tx rest ih =>
      rcases run_steps_cons_some ran with ⟨next, outcome, others, stepped, continued, rfl⟩
      have head : diverges state tx = (isOverdrawn outcome || unknownOpcode tx) := by
        rw [unknown_opcode_eq]
        unfold diverges
        have shape := perform_spec stepped
        change Performs mode state tx.sender (decode tx.instructionData) next outcome at shape
        generalize decode tx.instructionData = instruction at shape ⊢
        cases shape with
        | transferred covered added =>
            simpa [isOverdrawn] using covered
        | overdrawn short => simpa [isOverdrawn] using short
        | _ => rfl
      rw [DivergenceFree, head]
      have tail := ih continued
      constructor
      · intro free
        have restZero := tail.mp (free.2 next outcome stepped)
        have plain := Bool.or_eq_false_iff.mp free.1
        simp only [List.countP_cons, plain.1, plain.2, Bool.false_eq_true, if_false]
        omega
      · intro zero
        simp only [List.countP_cons] at zero
        have notOverdrawn : isOverdrawn outcome = false := by
          by_contra overdrawn
          rw [Bool.not_eq_false] at overdrawn
          simp [overdrawn] at zero
        have notUnknown : unknownOpcode tx = false := by
          by_contra unknown
          rw [Bool.not_eq_false] at unknown
          simp [unknown] at zero
        refine ⟨by rw [notOverdrawn, notUnknown]; rfl, ?_⟩
        intro other otherOutcome otherStepped
        rw [stepped, Option.some.injEq, Prod.mk.injEq] at otherStepped
        rw [← otherStepped.1]
        apply tail.mpr
        simpa [notOverdrawn, notUnknown] using zero

end Runs

section Boundary

variable {hashBytes : HashBytes} {maxCuPerTx : UInt64} {mode : OverflowMode} {batch : Batch}
variable {transactions : List Transaction} {trace : ExecutionTrace}

structure LedgerRun (hashBytes : HashBytes) (maxCuPerTx : UInt64) (mode : OverflowMode)
    (transactions : List Transaction) (trace : ExecutionTrace) (final : State)
    (outcomes : List Outcome) : Prop where
  ran : run mode (proverInitialState transactions) (transactions.map transactionCall) =
    some (final, outcomes)
  accumulated : accumulate mode 0
    (outcomes.map (hostCompute (.new maxCuPerTx))) = some trace.totalCompute
  preRoot : trace.stateRootPre =
    TraceBuilding.computeStateRoot hashBytes (proverInitialState transactions)
  postRoot : trace.stateRootPost = TraceBuilding.computeStateRoot hashBytes final
  traceHash : trace.traceHash = merkleRoot hashBytes
    ((hostTexts (.new maxCuPerTx) transactions outcomes).map (hashStr hashBytes))
  entryCount : trace.entries.length = transactions.length

theorem ledger_run_of_executed
    (executed : (FullExecutor.new maxCuPerTx).executeWithTransactions hashBytes mode batch
      transactions = some trace) :
    ∃ final outcomes, LedgerRun hashBytes maxCuPerTx mode transactions trace final outcomes := by
  rcases ExecutionEngine.execute_submissions_some hashBytes _ rfl mode batch _ trace executed with
    ⟨final, outcomes, ran, accumulated, texts, _, preRoot, postRoot, traceHash⟩
  rw [submitted_senders, submitted_calls] at ran
  rw [submitted_senders] at preRoot
  refine ⟨final, outcomes, ran, accumulated, preRoot, postRoot, traceHash, ?_⟩
  have lengths := congrArg List.length texts
  have outcomeCount := run_steps_outputs_length ran
  simpa [outcomeCount] using lengths

/-- The guest accepts exactly the batches whose two accounts have the same
Merkle root and the same accumulated compute. -/
theorem guest_accepts_iff {final : State} {outcomes : List Outcome}
    (ledger : LedgerRun hashBytes maxCuPerTx mode transactions trace final outcomes) :
    (∃ committed, GuestProgram.main hashBytes mode
        (guestStdin trace transactions (proverInitialState transactions)) = some committed) ↔
      accumulate mode 0 (guestComputes transactions outcomes) = some trace.totalCompute ∧
      merkleRoot hashBytes ((guestTexts transactions outcomes).map (hashStr hashBytes)) =
        merkleRoot hashBytes
          ((hostTexts (.new maxCuPerTx) transactions outcomes).map (hashStr hashBytes)) := by
  constructor
  · intro accepts
    rcases accepts with ⟨committed, accepted⟩
    rcases (GuestProgram.main_commits_iff _ _ _ _).mp accepted with
      ⟨final', outcomes', total, ran, accumulated, _, _, sameHash, sameTotal, _⟩
    simp only [guestStdin, serialized_calls, ledger.ran, Option.some.injEq, Prod.mk.injEq] at ran
    rcases ran with ⟨rfl, rfl⟩
    constructor
    · exact accumulated.trans (congrArg some sameTotal)
    · rw [← ledger.traceHash]
      exact sameHash
  · intro agree
    rcases agree with ⟨accumulated, sameHash⟩
    rw [← ledger.traceHash] at sameHash
    refine ⟨_, (GuestProgram.main_commits_iff _ _ _ _).mpr ⟨final, outcomes, trace.totalCompute, ?_,
      accumulated, ledger.preRoot.symm, ledger.postRoot.symm, sameHash, rfl, ?_, rfl⟩⟩
    · simp only [guestStdin, serialized_calls]
      exact ledger.ran
    · simp [guestStdin, traceInput, ledger.entryCount]

theorem report_insufficient_iff (instruction : Instruction) (outcome : Outcome) :
    insufficientBalance (ExecutionEngine.hostReport instruction outcome) =
      isOverdrawn outcome := by
  cases outcome with
  | applied reads writes compute => rfl
  | overdrawn needed available => rfl
  | refused => cases instruction <;> rfl

def hostResults (transactions : List Transaction) (outcomes : List Outcome) :
    List ExecutionEngine.InstructionResult :=
  List.zipWith
    (fun call outcome => ExecutionEngine.hostReport (decode call.instructionData) outcome)
    (transactions.map transactionCall) outcomes

theorem host_results_insufficient {outcomes : List Outcome}
    (performed : List.Forall₂ (fun tx outcome => Performed (transactionCall tx) outcome)
      transactions outcomes) :
    (hostResults transactions outcomes).countP insufficientBalance =
      outcomes.countP isOverdrawn := by
  induction performed with
  | nil => rfl
  | @cons tx outcome rest others head tail ih =>
      change (_ :: hostResults rest others).countP _ = _
      rw [List.countP_cons, List.countP_cons, ih, report_insufficient_iff]

theorem benign_failure {tx : Transaction} {outcome : Outcome}
    (performed : Performed (transactionCall tx) outcome)
    (benign : (ExecutionEngine.hostReport (decode tx.instructionData) outcome).isOk = false →
      emptyOrTooShort tx = true) :
    isOverdrawn outcome = false ∧ unknownOpcode tx = false := by
  rcases performed with ⟨mode, state, next, stepped⟩
  have shape := perform_spec stepped
  change Performs mode state tx.sender (decode tx.instructionData) next outcome at shape
  rw [unknown_opcode_eq]
  have decoded := decode_spec tx.instructionData
  unfold emptyOrTooShort at benign
  generalize tx.instructionData = data at benign shape decoded ⊢
  generalize decode data = instruction at benign shape decoded ⊢
  cases shape with
  | overdrawn short =>
      cases decoded with
      | transfer long => simpa [long] using benign rfl
  | refusedUnknown =>
      cases decoded with
      | unknown large =>
          have notBelow := UInt8.not_lt.mpr (UInt8.le_of_lt large)
          simpa [notBelow] using benign rfl
  | _ => exact ⟨rfl, rfl⟩

theorem benign_failures {outcomes : List Outcome}
    (performed : List.Forall₂ (fun tx outcome => Performed (transactionCall tx) outcome)
      transactions outcomes)
    (benign : List.Forall₂ (fun tx result => result.isOk = false → emptyOrTooShort tx = true)
      transactions (hostResults transactions outcomes)) :
    outcomes.countP isOverdrawn + transactions.countP unknownOpcode = 0 := by
  induction performed with
  | nil => rfl
  | @cons tx outcome rest others head tail ih =>
      change List.Forall₂ _ _ (_ :: hostResults rest others) at benign
      rw [List.forall₂_cons] at benign
      rcases benign_failure head benign.1 with ⟨covered, known⟩
      have restZero := ih benign.2
      simp only [List.countP_cons, covered, known, Bool.false_eq_true, if_false]
      omega

theorem totals_exact {final : State} {outcomes : List Outcome} (cap : 5000 ≤ maxCuPerTx)
    (fits : 5000 * transactions.length < 2 ^ 64)
    (ledger : LedgerRun hashBytes maxCuPerTx mode transactions trace final outcomes) :
    ∃ total, accumulate mode 0 (guestComputes transactions outcomes) = some total ∧
      total.toNat = trace.totalCompute.toNat + 5000 * outcomes.countP isOverdrawn +
        500 * transactions.countP unknownOpcode := by
  have performed := run_performed ledger.ran
  have capped : 5000 ≤ (DeterministicExecutor.new maxCuPerTx).maxCuPerTx := cap
  have bound := guest_compute_sum_le performed
  have surplus := guest_compute_sum capped performed
  rcases accumulate_exact mode 0 (guestComputes transactions outcomes)
    (by rw [UInt64.toNat_zero]; omega) with ⟨total, guestTotal, guestValue⟩
  rcases accumulate_exact mode 0 (outcomes.map (hostCompute (.new maxCuPerTx)))
    (by rw [UInt64.toNat_zero]; omega) with ⟨hostSum, hostTotal, hostValue⟩
  have sameHost : hostSum = trace.totalCompute :=
    Option.some.inj (hostTotal.symm.trans ledger.accumulated)
  rw [sameHost, UInt64.toNat_zero] at hostValue
  rw [UInt64.toNat_zero] at guestValue
  exact ⟨total, guestTotal, by omega⟩

theorem accepted_of_no_divergent {final : State} {outcomes : List Outcome}
    (cap : 5000 ≤ maxCuPerTx)
    (ledger : LedgerRun hashBytes maxCuPerTx mode transactions trace final outcomes)
    (none : outcomes.countP isOverdrawn + transactions.countP unknownOpcode = 0) :
    ∃ committed, GuestProgram.main hashBytes mode
      (guestStdin trace transactions (proverInitialState transactions)) = some committed := by
  have capped : 5000 ≤ (DeterministicExecutor.new maxCuPerTx).maxCuPerTx := cap
  rcases lists_agree capped (run_performed ledger.ran) (by omega) (by omega) with
    ⟨sameTexts, sameComputes⟩
  rw [guest_accepts_iff ledger, sameTexts, sameComputes]
  exact ⟨ledger.accumulated, rfl⟩

/-- Below the `u64` bound the total alone decides, whatever the hash is. -/
theorem accepted_iff_no_divergent {final : State} {outcomes : List Outcome}
    (cap : 5000 ≤ maxCuPerTx) (fits : 5000 * transactions.length < 2 ^ 64)
    (ledger : LedgerRun hashBytes maxCuPerTx mode transactions trace final outcomes) :
    (∃ committed, GuestProgram.main hashBytes mode
        (guestStdin trace transactions (proverInitialState transactions)) = some committed) ↔
      outcomes.countP isOverdrawn + transactions.countP unknownOpcode = 0 := by
  constructor
  · intro accepted
    rcases totals_exact cap fits ledger with ⟨total, guestTotal, value⟩
    have sameTotal := ((guest_accepts_iff ledger).mp accepted).1
    have equal : total = trace.totalCompute := Option.some.inj (guestTotal.symm.trans sameTotal)
    rw [equal] at value
    omega
  · exact accepted_of_no_divergent cap ledger

/-- The exact boundary, with the guest's surplus. -/
theorem provability_boundary (hashBytes : HashBytes) (maxCuPerTx : UInt64) (mode : OverflowMode)
    (batch : Batch) (transactions : List Transaction) (trace : ExecutionTrace)
    (cap : 5000 ≤ maxCuPerTx) (fits : 5000 * transactions.length < 2 ^ 64)
    (executed : (FullExecutor.new maxCuPerTx).executeWithTransactions hashBytes mode batch
      transactions = some trace) :
    ∃ final results recomputed,
      runSteps (hostStep (.new maxCuPerTx) mode) (proverInitialState transactions)
        (transactions.map transactionCall) = some (final, results) ∧
      GuestProgram.executeBatch hashBytes mode (proverInitialState transactions)
        (transactions.map serializableTransaction) = some recomputed ∧
      recomputed.totalCompute.toNat = trace.totalCompute.toNat +
        5000 * results.countP insufficientBalance + 500 * transactions.countP unknownOpcode ∧
      ((∃ committed, GuestProgram.main hashBytes mode
          (guestStdin trace transactions (proverInitialState transactions)) = some committed) ↔
        results.countP insufficientBalance + transactions.countP unknownOpcode = 0) ∧
      (List.Forall₂ (fun tx result => result.isOk = false → emptyOrTooShort tx = true)
          transactions results →
        ∃ committed, GuestProgram.main hashBytes mode
          (guestStdin trace transactions (proverInitialState transactions)) = some committed) := by
  rcases ledger_run_of_executed executed with ⟨final, outcomes, ledger⟩
  have performed := run_performed ledger.ran
  have accepts := accepted_iff_no_divergent cap fits ledger
  rcases totals_exact cap fits ledger with ⟨total, guestTotal, value⟩
  have hostRun : runSteps (hostStep (.new maxCuPerTx) mode) (proverInitialState transactions)
      (transactions.map transactionCall) = some (final, hostResults transactions outcomes) := by
    rw [host_run_eq, ledger.ran]
    rfl
  refine ⟨final, hostResults transactions outcomes, _, hostRun,
    GuestProgram.execute_batch_some hashBytes mode _ final _ outcomes total ?_ guestTotal,
    ?_, ?_, ?_⟩
  · rw [serialized_calls]
    exact ledger.ran
  · rw [host_results_insufficient performed]
    exact value
  · rw [host_results_insufficient performed]
    exact accepts
  · intro benign
    exact accepts.mpr (benign_failures performed benign)

end Boundary

def sampleTransaction (instructionData : List UInt8) : Transaction :=
  { Transaction.new ⟨"tx_0"⟩ "alice" "program" with instructionData := instructionData }

/-- An overdrawn transfer of two million, an unknown opcode, a `Noop` and empty data. -/
def mixedTransactions : List Transaction :=
  [sampleTransaction [0, 128, 132, 30, 0, 0, 0, 0, 0, 7, 0, 0, 0, 0, 0, 0, 0],
    sampleTransaction [9], sampleTransaction [3], sampleTransaction []]

theorem mixed_batch_surplus :
    ∃ trace recomputed,
      (FullExecutor.new 200000).executeWithTransactions (fun _ => "") .panicking
        (Batch.new "batch_0" 0) mixedTransactions = some trace ∧
      GuestProgram.executeBatch (fun _ => "") .panicking (proverInitialState mixedTransactions)
        (mixedTransactions.map serializableTransaction) = some recomputed ∧
      recomputed.totalCompute.toNat = trace.totalCompute.toNat + 5500 ∧
      ¬∃ committed, GuestProgram.main (fun _ => "") .panicking
        (guestStdin trace mixedTransactions (proverInitialState mixedTransactions)) =
          some committed := by
  have returns : ((FullExecutor.new 200000).executeWithTransactions (fun _ => "") .panicking
      (Batch.new "batch_0" 0) mixedTransactions).isSome := by decide
  rcases Option.isSome_iff_exists.mp returns with ⟨trace, executed⟩
  rcases provability_boundary _ _ _ _ _ trace (by decide) (by decide) executed with
    ⟨final, results, recomputed, hostRun, guestRun, surplus, accepts, _⟩
  have oneOverdrawn : (runSteps (hostStep (.new 200000) .panicking)
      (proverInitialState mixedTransactions) (mixedTransactions.map transactionCall)).map
        (fun ran => ran.2.countP insufficientBalance) = some 1 := by decide
  rw [hostRun, Option.map_some, Option.some.injEq] at oneOverdrawn
  have oneUnknown : mixedTransactions.countP unknownOpcode = 1 := by decide
  rw [oneOverdrawn, oneUnknown] at surplus accepts
  refine ⟨trace, recomputed, executed, guestRun, surplus, ?_⟩
  intro accepted
  exact absurd (accepts.mp accepted) (by decide)

end CatalystSvm.ProvabilityBoundary
