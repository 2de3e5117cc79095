import CatalystSvm.Library.Reorderings
import CatalystSvm.ProvabilityBoundary
import CatalystSvm.TraceShape
import CatalystSvm.ValueConservation

/-!
# Schedules of a batch

A batch may be executed in another order. As long as every two transactions that
touch a common key, one of them writing it, keep their order, the accounts end up
the same, every transaction does the same, and host and guest report the same
roots and the same compute. The keys are those that the guest reports; what the
host reports for a failed transaction would not be enough.
-/

namespace CatalystSvm.BatchSchedules

open CatalystSvm.CommonTypes CatalystSvm.CommonMerkle CatalystSvm.MachineArithmetic
open CatalystSvm.TraceBuilding CatalystSvm.LedgerMachine CatalystSvm.ExecutionEngine
open CatalystSvm.ProverInputs CatalystSvm.WriteFrames CatalystSvm.TraceShape
open CatalystSvm.ProvabilityBoundary (isOverdrawn unknownOpcode ledger_run_of_executed
  accepted_iff_no_divergent)
open CatalystSvm.BatchContinuity (initialAccounts)
open CatalystSvm.Library.StepFold CatalystSvm.Library.Footprints CatalystSvm.Library.Reorderings

set_option autoImplicit false

def report (tx : Transaction) (outcome : Outcome) : GuestProgram.InstructionResult :=
  GuestProgram.guestReport tx.sender (decode tx.instructionData) outcome

structure LogEntry where
  tx : Transaction
  outcome : Outcome
  /-- The values of the keys that it read. -/
  seen : List (Option UInt64)
  /-- The values of the keys that it wrote, after it. -/
  left : List (Option UInt64)
  deriving DecidableEq

def logEntry (before after : State) (tx : Transaction) (outcome : Outcome) : LogEntry where
  tx := tx
  outcome := outcome
  seen := (report tx outcome).reads.map fun key => before[key]?
  left := (report tx outcome).writes.map fun key => after[key]?

def logStep (mode : OverflowMode) (state : State) (tx : Transaction) :
    Option (State × LogEntry) :=
  (performCall mode state (transactionCall tx)).map fun moved =>
    (moved.1, logEntry state moved.1 tx moved.2)

def batchLog (mode : OverflowMode) (state : State) (transactions : List Transaction) :
    Option (State × List LogEntry) :=
  runSteps (logStep mode) state transactions

def logReport (entry : LogEntry) : GuestProgram.InstructionResult := report entry.tx entry.outcome

def keysRead (entry : LogEntry) : List String := (logReport entry).reads

def keysWritten (entry : LogEntry) : List String := (logReport entry).writes

/-- One of the two writes a key that the other one reads or writes. -/
abbrev Conflicts : LogEntry → LogEntry → Prop := Conflict keysRead keysWritten

/-- The same log up to the order of transactions that do not conflict. -/
abbrev SameSchedule : List LogEntry → List LogEntry → Prop := SameOrder Conflicts

/-! ## The ledger -/

theorem log_footprint (mode : OverflowMode) (tx : Transaction) :
    Footprint (fun (state : State) (key : String) => state[key]?) keysRead keysWritten
      (fun state => logStep mode state tx) where
  frame := by
    intro state next entry logged key outside
    obtain ⟨⟨moved, outcome⟩, performed, same⟩ := Option.map_eq_some_iff.mp logged
    cases same
    have performs := perform_spec performed
    cases outcome with
    | applied reads writes compute =>
        have frame : WriteFrame writes state moved := performs_write_frame performs
        exact frame.others key outside
    | overdrawn needed available => rw [performs_failure performs rfl]
    | refused => rw [performs_failure performs rfl]
  local_reads := by
    intro state next entry other logged agrees
    obtain ⟨⟨moved, outcome⟩, performed, same⟩ := Option.map_eq_some_iff.mp logged
    cases same
    obtain ⟨otherNext, again, written⟩ := performs_local (perform_spec performed) agrees
    have repeated : performCall mode other (transactionCall tx) = some (otherNext, outcome) :=
      perform_of_performs again
    have seen : (report tx outcome).reads.map (fun key => other[key]?) =
        (report tx outcome).reads.map fun key => state[key]? :=
      List.map_congr_left agrees
    have left : (report tx outcome).writes.map (fun key => otherNext[key]?) =
        (report tx outcome).writes.map fun key => moved[key]? :=
      List.map_congr_left written
    refine ⟨otherNext, ?_, written⟩
    rw [logStep, repeated, Option.map_some, logEntry, seen, left]
    rfl

theorem accounts_extensional (left right : State)
    (same : ∀ key : String, left[key]? = right[key]?) : left = right :=
  Std.ExtTreeMap.ext_getElem? fun {key} => same key

theorem batch_log_run {mode : OverflowMode} {state final : State}
    {transactions : List Transaction} {log : List LogEntry}
    (logged : batchLog mode state transactions = some (final, log)) :
    log.map LogEntry.tx = transactions ∧
      run mode state (transactions.map transactionCall) =
        some (final, log.map LogEntry.outcome) := by
  induction transactions generalizing state log with
  | nil =>
      cases logged
      exact ⟨rfl, rfl⟩
  | cons tx rest ih =>
      obtain ⟨next, entry, others, stepped, continued, rfl⟩ := run_steps_cons_some logged
      obtain ⟨⟨moved, outcome⟩, performed, same⟩ := Option.map_eq_some_iff.mp stepped
      cases same
      obtain ⟨listed, ran⟩ := ih continued
      constructor
      · rw [List.map_cons, listed]
        rfl
      · exact run_steps_cons_of performed ran

theorem same_schedule_logged {mode : OverflowMode} {state final : State}
    {transactions : List Transaction} {log others : List LogEntry}
    (logged : batchLog mode state transactions = some (final, log))
    (same : SameSchedule log others) :
    batchLog mode state (others.map LogEntry.tx) = some (final, others) := by
  have replays : Replays (logStep mode) LogEntry.tx state log final := by
    rw [Replays, (batch_log_run logged).1]
    exact logged
  exact same_order_replays (log_footprint mode) accounts_extensional same replays

/-! ## The host's trace -/

/-- An entry without its position and without the state hashes around it. -/
def unplaced (entry : TraceEntry) : TraceEntry :=
  { entry with txIdx := 0, preStateHash := "", postStateHash := "" }

def hostEntry (executor : DeterministicExecutor) (submission : Submission) (outcome : Outcome) :
    TraceEntry :=
  resultEntry executor 0 submission.txId submission.label submission.failedLabel "" ""
    (hostReport (decode submission.instructionData) outcome)

theorem result_entry_unplaced (executor : DeterministicExecutor) (index : Nat)
    (submission : Submission) (pre post : String) (outcome : Outcome) :
    unplaced (resultEntry executor index submission.txId submission.label submission.failedLabel
        pre post (hostReport (decode submission.instructionData) outcome)) =
      hostEntry executor submission outcome := by
  unfold hostEntry
  cases hostReport (decode submission.instructionData) outcome <;> rfl

theorem execute_loop_entries {hashBytes : HashBytes} {executor : DeterministicExecutor}
    (strict : executor.failOnInvalid = true) {mode : OverflowMode} {index : Nat}
    {state final : State} {builder built : TraceBuilder} {submissions : List Submission}
    {outcomes : List Outcome}
    (ran : run mode state (submissions.map Submission.call) = some (final, outcomes))
    (completed : executeLoop hashBytes executor mode index state builder submissions =
      some (final, built)) :
    built.entries.map unplaced =
      builder.entries.map unplaced ++ List.zipWith (hostEntry executor) submissions outcomes := by
  induction submissions generalizing index state builder outcomes with
  | nil =>
      cases completed
      simp
  | cons submission rest ih =>
      obtain ⟨next, outcome, others, performed, continued, rfl⟩ := run_steps_cons_some ran
      change perform mode state submission.sender (decode submission.instructionData) = _
        at performed
      simp only [executeLoop, execute_instruction_refines executor strict, performed, bind,
        Option.map_some, Option.bind_some, TraceBuilder.addEntry, Option.bind_eq_some_iff,
        Option.some.injEq] at completed
      obtain ⟨_, ⟨total, added, rfl⟩, looped⟩ := completed
      rw [ih continued looped, List.map_append, List.map_singleton, result_entry_unplaced,
        List.zipWith_cons_cons, List.append_assoc, List.singleton_append]

/-- Two traces of one batch, up to the order of their entries. -/
structure SameEffect (left right : ExecutionTrace) : Prop where
  batchId : right.batchId = left.batchId
  stateRootPre : right.stateRootPre = left.stateRootPre
  stateRootPost : right.stateRootPost = left.stateRootPost
  totalCompute : right.totalCompute = left.totalCompute
  successCount : right.successCount = left.successCount
  failureCount : right.failureCount = left.failureCount
  entries : (right.entries.map unplaced).Perm (left.entries.map unplaced)

theorem executed_counts {hashBytes : HashBytes} {maxCuPerTx : UInt64} {mode : OverflowMode}
    {batch : Batch} {submissions : List Submission} {trace : ExecutionTrace}
    (executed : executeSubmissions hashBytes (.new maxCuPerTx) mode batch submissions =
      some trace) :
    trace.successCount = (trace.entries.map unplaced).countP TraceEntry.success ∧
      trace.failureCount =
        (trace.entries.map unplaced).countP fun entry => !entry.success := by
  simp only [executeSubmissions, bind, Option.bind_eq_some_iff, Option.some.injEq] at executed
  obtain ⟨⟨final, built⟩, looped, rfl⟩ := executed
  obtain ⟨fresh, _, gains⟩ := execute_loop_chain hashBytes looped
  rw [List.countP_map, List.countP_map]
  change built.successCount = built.entries.countP TraceEntry.success ∧
    built.failureCount = built.entries.countP fun entry => !entry.success
  rw [gains.entries, gains.successes, gains.failures]
  simp [TraceBuilder.new]

theorem executed_log {hashBytes : HashBytes} {maxCuPerTx : UInt64} {mode : OverflowMode}
    {batch : Batch} {transactions : List Transaction} {trace : ExecutionTrace} {final : State}
    {log : List LogEntry}
    (logged : batchLog mode (initialAccounts transactions) transactions = some (final, log))
    (executed : (FullExecutor.new maxCuPerTx).executeWithTransactions hashBytes mode batch
      transactions = some trace) :
    accumulate mode 0 (log.map fun entry => hostCompute (.new maxCuPerTx) entry.outcome) =
        some trace.totalCompute ∧
      trace.entries.map unplaced =
        log.map (fun entry => hostEntry (.new maxCuPerTx) (submissionOf entry.tx) entry.outcome) ∧
      trace.batchId = batch.batchId ∧
      trace.stateRootPre = computeStateRoot hashBytes (initialAccounts transactions) ∧
      trace.stateRootPost = computeStateRoot hashBytes final := by
  obtain ⟨listed, ran⟩ := batch_log_run logged
  have submitted : run mode (initialBalances ((transactions.map submissionOf).map
      Submission.sender)) ((transactions.map submissionOf).map Submission.call) =
        some (final, log.map LogEntry.outcome) := by
    rw [submitted_senders, submitted_calls]
    exact ran
  obtain ⟨last, outcomes, also, accumulated, _, batchId, pre, post, _⟩ :=
    execute_submissions_some hashBytes _ rfl mode batch _ trace executed
  cases submitted.symm.trans also
  rw [submitted_senders] at pre
  refine ⟨?_, ?_, batchId, pre, post⟩
  · rw [List.map_map] at accumulated
    exact accumulated
  · unfold FullExecutor.executeWithTransactions at executed
    simp only [executeSubmissions, bind, Option.bind_eq_some_iff, Option.some.injEq] at executed
    obtain ⟨⟨reached, built⟩, looped, rfl⟩ := executed
    obtain ⟨_, again, _⟩ := execute_loop_some hashBytes _ rfl mode _ _ _ _ _ _ looped
    cases submitted.symm.trans again
    have zipped : List.zipWith (hostEntry (.new maxCuPerTx)) (transactions.map submissionOf)
        (log.map LogEntry.outcome) =
          log.map fun entry => hostEntry (.new maxCuPerTx) (submissionOf entry.tx) entry.outcome := by
      rw [← listed, List.map_map, List.zipWith_map, List.zipWith_self]
      rfl
    rw [← zipped]
    exact execute_loop_entries rfl submitted looped

theorem initial_accounts_perm {transactions others : List Transaction}
    (permuted : transactions.Perm others) : initialAccounts others = initialAccounts transactions := by
  apply accounts_extensional
  intro key
  rw [initialAccounts, initialAccounts, ValueConservation.initial_get,
    ValueConservation.initial_get]
  simp only [(permuted.map Transaction.sender).mem_iff]

theorem host_schedules_agree {hashBytes : HashBytes} {maxCuPerTx : UInt64} {mode : OverflowMode}
    {batch : Batch} {transactions : List Transaction} {trace : ExecutionTrace} {final : State}
    {log others : List LogEntry}
    (logged : batchLog mode (initialAccounts transactions) transactions = some (final, log))
    (same : SameSchedule log others)
    (executed : (FullExecutor.new maxCuPerTx).executeWithTransactions hashBytes mode batch
      transactions = some trace) :
    ∃ reordered, (FullExecutor.new maxCuPerTx).executeWithTransactions hashBytes mode batch
        (others.map LogEntry.tx) = some reordered ∧ SameEffect trace reordered := by
  have permuted : transactions.Perm (others.map LogEntry.tx) := by
    rw [← (batch_log_run logged).1]
    exact same.perm.map LogEntry.tx
  have relogged : batchLog mode (initialAccounts (others.map LogEntry.tx)) (others.map LogEntry.tx) =
      some (final, others) := by
    rw [initial_accounts_perm permuted]
    exact same_schedule_logged logged same
  obtain ⟨accumulated, entries, batchId, pre, post⟩ := executed_log logged executed
  have costs := accumulate_perm mode
    (same.perm.map fun entry => hostCompute (.new maxCuPerTx) entry.outcome) 0
  have completes : ∃ reordered, (FullExecutor.new maxCuPerTx).executeWithTransactions hashBytes
      mode batch (others.map LogEntry.tx) = some reordered := by
    apply execute_submissions_completes hashBytes (.new maxCuPerTx) rfl mode batch _ final
      (others.map LogEntry.outcome) trace.totalCompute
    · rw [submitted_senders, submitted_calls]
      exact (batch_log_run relogged).2
    · rw [List.map_map]
      exact costs.symm.trans accumulated
  obtain ⟨reordered, again⟩ := completes
  obtain ⟨reaccumulated, reentries, rebatchId, repre, repost⟩ := executed_log relogged again
  have placed : (reordered.entries.map unplaced).Perm (trace.entries.map unplaced) := by
    rw [entries, reentries]
    exact same.perm.symm.map _
  obtain ⟨successes, failures⟩ := executed_counts executed
  obtain ⟨resuccesses, refailures⟩ := executed_counts again
  refine ⟨reordered, again, ?_, ?_, ?_, ?_, ?_, ?_, placed⟩
  · rw [rebatchId, batchId]
  · rw [repre, pre, initial_accounts_perm permuted]
  · rw [repost, post]
  · exact Option.some.inj (reaccumulated.symm.trans (costs.symm.trans accumulated))
  · rw [resuccesses, successes, placed.countP_eq]
  · rw [refailures, failures, placed.countP_eq]

/-! ## The guest's batch -/

theorem execute_batch_iff {hashBytes : HashBytes} {mode : OverflowMode} {state final : State}
    {transactions : List Transaction} {log : List LogEntry} {result : GuestProgram.BatchResult}
    (logged : batchLog mode state transactions = some (final, log)) :
    GuestProgram.executeBatch hashBytes mode state (transactions.map serializableTransaction) =
        some result ↔
      ∃ total, accumulate mode 0 (log.map fun entry => (logReport entry).compute) = some total ∧
        result = {
          stateRootPre := computeStateRoot hashBytes state
          stateRootPost := computeStateRoot hashBytes final
          totalCompute := total
          entryHashes := log.map fun entry => hashStr hashBytes
            (GuestProgram.reportText (serializableTransaction entry.tx) (logReport entry)) } := by
  obtain ⟨listed, ran⟩ := batch_log_run logged
  have reported : GuestProgram.reports (transactions.map serializableTransaction)
      (log.map LogEntry.outcome) = log.map logReport := by
    rw [← listed, GuestProgram.reports, List.map_map, List.zipWith_map, List.zipWith_self]
    rfl
  have texts : GuestProgram.reportTexts (transactions.map serializableTransaction)
      (log.map LogEntry.outcome) = log.map fun entry =>
        GuestProgram.reportText (serializableTransaction entry.tx) (logReport entry) := by
    rw [GuestProgram.reportTexts, reported, ← listed, List.map_map, List.zipWith_map,
      List.zipWith_self]
    rfl
  simp only [GuestProgram.executeBatch, GuestProgram.merkle_root_eq,
    GuestProgram.compute_state_root_eq, GuestProgram.batch_loop_eq, serialized_calls, ran, reported,
    texts, bind, Option.bind_some, List.nil_append, Option.bind_eq_some_iff,
    Option.map_eq_some_iff, Option.some.injEq]
  simp only [List.map_map]
  constructor
  · intro executed
    obtain ⟨_, ⟨total, accumulated, rfl⟩, rfl⟩ := executed
    exact ⟨total, accumulated, rfl⟩
  · intro executed
    obtain ⟨total, accumulated, rfl⟩ := executed
    exact ⟨_, ⟨total, accumulated, rfl⟩, rfl⟩

structure SameResult (left right : GuestProgram.BatchResult) : Prop where
  stateRootPre : right.stateRootPre = left.stateRootPre
  stateRootPost : right.stateRootPost = left.stateRootPost
  totalCompute : right.totalCompute = left.totalCompute
  entryHashes : right.entryHashes.Perm left.entryHashes

theorem guest_schedules_agree {hashBytes : HashBytes} {mode : OverflowMode} {state final : State}
    {transactions : List Transaction} {log others : List LogEntry}
    {result : GuestProgram.BatchResult}
    (logged : batchLog mode state transactions = some (final, log))
    (same : SameSchedule log others)
    (executed : GuestProgram.executeBatch hashBytes mode state
      (transactions.map serializableTransaction) = some result) :
    ∃ reordered, GuestProgram.executeBatch hashBytes mode state
        ((others.map LogEntry.tx).map serializableTransaction) = some reordered ∧
      SameResult result reordered := by
  obtain ⟨total, accumulated, rfl⟩ := (execute_batch_iff logged).mp executed
  have costs := accumulate_perm mode (same.perm.map fun entry => (logReport entry).compute) 0
  refine ⟨_, (execute_batch_iff (same_schedule_logged logged same)).mpr
    ⟨total, costs.symm.trans accumulated, rfl⟩, rfl, rfl, rfl, ?_⟩
  exact same.perm.symm.map _

/-! ## The guest's commitment -/

/-- The guest commits to both inputs or to neither, and but for the trace hash, in which
the entries are in order, to the same values. -/
structure SameCommitment (hashBytes : HashBytes) (mode : OverflowMode)
    (left right : GuestProgram.Stdin) : Prop where
  commits : (∃ committed, GuestProgram.main hashBytes mode left = some committed) ↔
    ∃ committed, GuestProgram.main hashBytes mode right = some committed
  values : ∀ first second, GuestProgram.main hashBytes mode left = some first →
    GuestProgram.main hashBytes mode right = some second →
    second = { first with traceHash := second.traceHash }

theorem committed_values {hashBytes : HashBytes} {mode : OverflowMode} {trace : ExecutionTrace}
    {transactions : List Transaction} {committed : GuestProgram.PublicInputs}
    (ran : GuestProgram.main hashBytes mode (proveStdin trace transactions) = some committed) :
    committed = (traceInput trace).claimed := by
  obtain ⟨_, _, _, _, _, _, _, _, _, _, claimed⟩ :=
    (GuestProgram.main_commits_iff _ _ _ _).mp ran
  exact claimed

theorem guest_commitments_agree {hashBytes : HashBytes} {maxCuPerTx : UInt64}
    {mode : OverflowMode} {batch : Batch} {transactions : List Transaction}
    {trace reordered : ExecutionTrace} {final : State} {log others : List LogEntry}
    (cap : 5000 ≤ maxCuPerTx) (fits : 5000 * transactions.length < 2 ^ 64)
    (logged : batchLog mode (initialAccounts transactions) transactions = some (final, log))
    (same : SameSchedule log others)
    (executed : (FullExecutor.new maxCuPerTx).executeWithTransactions hashBytes mode batch
      transactions = some trace)
    (again : (FullExecutor.new maxCuPerTx).executeWithTransactions hashBytes mode batch
      (others.map LogEntry.tx) = some reordered)
    (effect : SameEffect trace reordered) :
    SameCommitment hashBytes mode (proveStdin trace transactions)
      (proveStdin reordered (others.map LogEntry.tx)) := by
  have permuted : transactions.Perm (others.map LogEntry.tx) := by
    rw [← (batch_log_run logged).1]
    exact same.perm.map LogEntry.tx
  constructor
  case values =>
    intro first second ranFirst ranSecond
    have entries := effect.entries.length_eq
    rw [List.length_map, List.length_map] at entries
    rw [committed_values ranFirst, committed_values ranSecond]
    simp only [GuestProgram.ExecutionTraceInput.claimed, traceInput, effect.batchId,
      effect.stateRootPre, effect.stateRootPost, effect.totalCompute, entries]
  case commits =>
    by_cases empty : transactions = []
    · rw [empty] at permuted executed
      rw [empty, permuted.nil_eq.symm]
      rw [permuted.nil_eq.symm, executed] at again
      rw [Option.some.inj again]
    · have filled : others.map LogEntry.tx ≠ [] := fun none =>
        empty (List.perm_nil.mp (none ▸ permuted))
      have short : 5000 * (others.map LogEntry.tx).length < 2 ^ 64 := by
        rw [← permuted.length_eq]
        exact fits
      have relogged : batchLog mode (initialAccounts (others.map LogEntry.tx))
          (others.map LogEntry.tx) = some (final, others) := by
        rw [initial_accounts_perm permuted]
        exact same_schedule_logged logged same
      obtain ⟨_, outcomes, ledger⟩ := ledger_run_of_executed executed
      obtain ⟨_, reoutcomes, releger⟩ := ledger_run_of_executed again
      cases (batch_log_run logged).2.symm.trans ledger.ran
      cases (batch_log_run relogged).2.symm.trans releger.ran
      -- Both orders have the same outcomes, so one has a divergent transaction if the other has.
      have overdrawn : (others.map LogEntry.outcome).countP isOverdrawn =
          (log.map LogEntry.outcome).countP isOverdrawn :=
        (same.perm.symm.map LogEntry.outcome).countP_eq _
      have unknown : (others.map LogEntry.tx).countP unknownOpcode =
          transactions.countP unknownOpcode := permuted.symm.countP_eq _
      rw [prove_stdin_of_nonempty trace transactions empty,
        prove_stdin_of_nonempty reordered _ filled,
        accepted_iff_no_divergent cap fits ledger, accepted_iff_no_divergent cap short releger,
        overdrawn, unknown]

/-! ## Schedules that keep conflicts in order -/

/-- Every order of a batch in which conflicting transactions keep theirs reads and writes the
same values in every transaction and has the same final accounts, and the same host trace and
guest result up to the order of their entries. The guest commits for one order, given the
trace that the host made of it, exactly when it commits for the other. -/
theorem conflict_equivalent_schedules_agree (mode : OverflowMode) (hashBytes : HashBytes)
    (state final : State) (transactions : List Transaction) (log others : List LogEntry)
    (logged : batchLog mode state transactions = some (final, log))
    (same : SameSchedule log others) :
    batchLog mode state (others.map LogEntry.tx) = some (final, others) ∧
    (state = initialAccounts transactions →
      ∀ (maxCuPerTx : UInt64) (batch : Batch) (trace : ExecutionTrace),
      (FullExecutor.new maxCuPerTx).executeWithTransactions hashBytes mode batch transactions =
        some trace →
      ∃ reordered, (FullExecutor.new maxCuPerTx).executeWithTransactions hashBytes mode batch
          (others.map LogEntry.tx) = some reordered ∧ SameEffect trace reordered ∧
        (5000 ≤ maxCuPerTx → 5000 * transactions.length < 2 ^ 64 →
          SameCommitment hashBytes mode (proveStdin trace transactions)
            (proveStdin reordered (others.map LogEntry.tx)))) ∧
    ∀ result, GuestProgram.executeBatch hashBytes mode state
        (transactions.map serializableTransaction) = some result →
      ∃ reordered, GuestProgram.executeBatch hashBytes mode state
          ((others.map LogEntry.tx).map serializableTransaction) = some reordered ∧
        SameResult result reordered := by
  refine ⟨same_schedule_logged logged same, ?_, ?_⟩
  · intro start maxCuPerTx batch trace executed
    subst start
    obtain ⟨reordered, again, effect⟩ := host_schedules_agree logged same executed
    exact ⟨reordered, again, effect, fun cap fits =>
      guest_commitments_agree cap fits logged same executed again effect⟩
  · intro result executed
    exact guest_schedules_agree logged same executed

section Samples

def smallPayment (sender : String) (target : UInt8) : Transaction :=
  { Transaction.new ⟨"tx_" ++ sender⟩ sender "transfer" with
    instructionData := [0, 1, 0, 0, 0, 0, 0, 0, 0, target, 0, 0, 0, 0, 0, 0, 0] }

/-- A first unit from this sender, to a target that had this many. -/
def paymentEntry (sender target : String) (byte : UInt8) (had : Option UInt64) : LogEntry where
  tx := smallPayment sender byte
  outcome := .applied [sender, target] [sender, target] 5000
  seen := [some 1000000, had]
  left := [some 999999, some (had.getD 0 + 1)]

def payments : List Transaction :=
  [smallPayment "alice" 1, smallPayment "bob" 2, smallPayment "carol" 1]

def reorderedPayments : List LogEntry :=
  [paymentEntry "bob" "account_2" 2 none, paymentEntry "alice" "account_1" 1 none,
    paymentEntry "carol" "account_1" 1 (some 1)]

end Samples

/-- Alice and carol pay the same account, bob another one: bob may go first, and the guest
commits to that order as well. -/
theorem unrelated_payment_may_go_first :
    ∃ final, batchLog .panicking (initialAccounts payments)
        [smallPayment "bob" 2, smallPayment "alice" 1, smallPayment "carol" 1] =
      some (final, reorderedPayments) ∧
    ∃ trace committed, (FullExecutor.new 200000).executeWithTransactions sampleDigest .panicking
        (Batch.new "batch_1" 0)
        [smallPayment "bob" 2, smallPayment "alice" 1, smallPayment "carol" 1] = some trace ∧
      GuestProgram.main sampleDigest .panicking (proveStdin trace
        [smallPayment "bob" 2, smallPayment "alice" 1, smallPayment "carol" 1]) =
          some committed := by
  have logged : (batchLog .panicking (initialAccounts payments) payments).map Prod.snd =
      some [paymentEntry "alice" "account_1" 1 none, paymentEntry "bob" "account_2" 2 none,
        paymentEntry "carol" "account_1" 1 (some 1)] := by
    decide +kernel
  obtain ⟨⟨final, log⟩, logged, rfl⟩ := Option.map_eq_some_iff.mp logged
  have apart : ¬Conflicts (paymentEntry "alice" "account_1" 1 none)
      (paymentEntry "bob" "account_2" 2 none) := by
    decide +kernel
  have exchanged : Exchange Conflicts
      ([] ++ paymentEntry "alice" "account_1" 1 none :: paymentEntry "bob" "account_2" 2 none ::
        [paymentEntry "carol" "account_1" 1 (some 1)])
      ([] ++ paymentEntry "bob" "account_2" 2 none :: paymentEntry "alice" "account_1" 1 none ::
        [paymentEntry "carol" "account_1" 1 (some 1)]) := .swap apart
  have same := (reordering_iff_same_order conflict_symmetric).mp (.single exchanged)
  have general := conflict_equivalent_schedules_agree .panicking sampleDigest _ final _ _ _ logged
    same
  have accepted : ((FullExecutor.new 200000).executeWithTransactions sampleDigest .panicking
      (Batch.new "batch_1" 0) payments).any (fun trace =>
        (GuestProgram.main sampleDigest .panicking (proveStdin trace payments)).isSome) =
          true := by
    decide +kernel
  obtain ⟨trace, executed, commits⟩ := (Option.any_eq_true _ _).mp accepted
  obtain ⟨reordered, again, _, agree⟩ := general.2.1 rfl 200000 (Batch.new "batch_1" 0) trace
    executed
  obtain ⟨committed, ran⟩ := (agree (by decide) (by decide)).commits.mp
    (Option.isSome_iff_exists.mp commits)
  exact ⟨final, general.1, reordered, committed, again, ran⟩

end CatalystSvm.BatchSchedules
