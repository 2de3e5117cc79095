import CatalystSvm.ProverInputs

/-!
# The fallback path of the prover

`DeterministicExecutor::execute` knows transaction ids only and runs a `Noop` for
each. Without transactions the prover rebuilds these `Noop`s, and their senders,
from the trace entries. A batch of `Noop`s leaves the ledger as it was, so all that
the three code paths have to agree on are the ids and the order.
-/

namespace CatalystSvm.ProverFallback

open CatalystSvm.CommonTypes CatalystSvm.CommonMerkle CatalystSvm.MachineArithmetic
open CatalystSvm.TraceBuilding CatalystSvm.LedgerMachine CatalystSvm.ExecutionEngine
open CatalystSvm.ProverInputs CatalystSvm.Library.StepFold
open CatalystSvm.GuestProgram (reports reportTexts SerializableTransaction)

set_option autoImplicit false

/-! ## A batch of no-ops on the host -/

section Host

variable (hashBytes : HashBytes) (executor : DeterministicExecutor) (mode : OverflowMode)

def noopEntry (state : State) (idx : Nat) (submission : Submission) : TraceEntry :=
  resultEntry executor idx submission.txId submission.label submission.failedLabel
    (computeStateRoot hashBytes state) (computeStateRoot hashBytes state)
    (.ok { reads := [], writes := [], compute := 1000 })

def noopEntries (state : State) : Nat → List Submission → List TraceEntry
  | _, [] => []
  | idx, submission :: rest =>
      noopEntry hashBytes executor state idx submission :: noopEntries state (idx + 1) rest

def noopText (txId : TransactionId) : String :=
  entryText txId.asStr true (min 1000 executor.maxCuPerTx) [] []

theorem noop_entries_ids (state : State) (idx : Nat) (submissions : List Submission) :
    (noopEntries hashBytes executor state idx submissions).map TraceEntry.txId =
      submissions.map Submission.txId := by
  induction submissions generalizing idx with
  | nil => rfl
  | cons submission rest ih =>
      rw [noopEntries, List.map_cons, List.map_cons, ih]
      rfl

theorem noop_entries_texts (state : State) (idx : Nat) (submissions : List Submission) :
    (noopEntries hashBytes executor state idx submissions).map traceText =
      (submissions.map Submission.txId).map (noopText executor) := by
  induction submissions generalizing idx with
  | nil => rfl
  | cons submission rest ih =>
      rw [noopEntries, List.map_cons, List.map_cons, List.map_cons, ih]
      rfl

theorem noop_loop_eq (idx : Nat) (state : State) (builder : TraceBuilder)
    (submissions : List Submission)
    (noops : ∀ submission ∈ submissions, submission.instructionData = [3]) :
    executeLoop hashBytes executor mode idx state builder submissions =
      (accumulate mode builder.totalCompute
        (List.replicate submissions.length (min 1000 executor.maxCuPerTx))).map fun total =>
          (state, { builder with
            entries := builder.entries ++ noopEntries hashBytes executor state idx submissions
            totalCompute := total
            successCount := builder.successCount + submissions.length }) := by
  induction submissions generalizing idx builder with
  | nil => simp [executeLoop, accumulate, noopEntries]
  | cons submission rest ih =>
      have first : executeInstruction executor mode state submission.sender
          submission.instructionData =
            some (state, .ok { reads := [], writes := [], compute := 1000 }) := by
        rw [noops submission (by simp)]
        rfl
      have others : ∀ other ∈ rest, other.instructionData = [3] :=
        fun other member => noops other (by simp [member])
      simp only [executeLoop, first, bind, Option.bind_some, TraceBuilder.addEntry,
        List.length_cons, List.replicate_succ, accumulate_cons]
      change (((addU64 mode builder.totalCompute (min 1000 executor.maxCuPerTx)).bind _).bind _) =
        Option.map _ ((addU64 mode builder.totalCompute (min 1000 executor.maxCuPerTx)).bind _)
      cases addU64 mode builder.totalCompute (min 1000 executor.maxCuPerTx) with
      | none => rfl
      | some total =>
          simp only [Option.bind_some]
          rw [ih _ _ others]
          simp [resultEntry, noopEntries, noopEntry, Nat.add_comm 1, Nat.add_assoc]

structure NoopTrace (executor : DeterministicExecutor) (mode : OverflowMode)
    (txIds : List TransactionId) (senders : List String) (trace : ExecutionTrace) : Prop where
  ids : trace.entries.map TraceEntry.txId = txIds
  stateRootPre : trace.stateRootPre = computeStateRoot hashBytes (initialBalances senders)
  stateRootPost : trace.stateRootPost = computeStateRoot hashBytes (initialBalances senders)
  traceHash : trace.traceHash =
    merkleRoot hashBytes ((txIds.map (noopText executor)).map (hashStr hashBytes))
  totalCompute : accumulate mode 0
    (List.replicate txIds.length (min 1000 executor.maxCuPerTx)) = some trace.totalCompute
  successCount : trace.successCount = txIds.length
  failureCount : trace.failureCount = 0

theorem noop_submissions_some (batch : Batch) {submissions : List Submission}
    (noops : ∀ submission ∈ submissions, submission.instructionData = [3])
    {trace : ExecutionTrace}
    (executed : executeSubmissions hashBytes executor mode batch submissions = some trace) :
    NoopTrace hashBytes executor mode (submissions.map Submission.txId)
      (submissions.map Submission.sender) trace := by
  simp only [executeSubmissions, bind, noop_loop_eq _ _ _ _ _ _ _ noops, Option.bind_eq_some_iff,
    Option.map_eq_some_iff, Option.some.injEq] at executed
  rcases executed with ⟨_, ⟨total, accumulated, rfl⟩, rfl⟩
  constructor
  case ids => simp [TraceBuilder.build, TraceBuilder.new, noop_entries_ids]
  case stateRootPre => rfl
  case stateRootPost => rfl
  case traceHash =>
    simp only [TraceBuilder.build, TraceBuilder.new, List.nil_append, entry_hashes_eq,
      noop_entries_texts]
  case totalCompute =>
    rw [List.length_map]
    exact accumulated
  case successCount => simp [TraceBuilder.build, TraceBuilder.new]
  case failureCount => rfl

theorem noop_submissions_complete (batch : Batch) {submissions : List Submission}
    (noops : ∀ submission ∈ submissions, submission.instructionData = [3]) {total : UInt64}
    (accumulated : accumulate mode 0
      (List.replicate submissions.length (min 1000 executor.maxCuPerTx)) = some total) :
    ∃ trace, executeSubmissions hashBytes executor mode batch submissions = some trace := by
  simp only [executeSubmissions, bind, noop_loop_eq _ _ _ _ _ _ _ noops]
  change ∃ trace, ((accumulate mode 0 _).map _).bind _ = some trace
  rw [accumulated]
  exact ⟨_, rfl⟩

end Host

/-! ## The same batch in the guest -/

section Guest

variable {mode : OverflowMode}

theorem noop_run (state : State) (calls : List Call)
    (noops : ∀ call ∈ calls, call.instructionData = [3]) :
    run mode state calls =
      some (state, List.replicate calls.length (.applied [] [] 1000)) := by
  induction calls with
  | nil => rfl
  | cons call rest ih =>
      have stepped : performCall mode state call = some (state, .applied [] [] 1000) := by
        rw [performCall, noops call (by simp)]
        rfl
      exact run_steps_cons_of stepped (ih fun other member => noops other (by simp [member]))

theorem noop_reports (transactions : List SerializableTransaction) :
    reports transactions (List.replicate transactions.length (.applied [] [] 1000)) =
      List.replicate transactions.length ⟨[], [], 1000, true, none⟩ := by
  induction transactions with
  | nil => rfl
  | cons tx rest ih =>
      rw [reports] at ih
      rw [List.length_cons, List.replicate_succ, reports, List.zipWith_cons_cons, ih]
      rfl

theorem noop_report_texts (transactions : List SerializableTransaction) :
    reportTexts transactions (List.replicate transactions.length (.applied [] [] 1000)) =
      transactions.map fun tx => entryText tx.txId true 1000 [] [] := by
  rw [reportTexts, noop_reports]
  induction transactions with
  | nil => rfl
  | cons tx rest ih =>
      rw [List.length_cons, List.replicate_succ, List.zipWith_cons_cons, ih]
      rfl

theorem map_noop_text {Item : Type} (items : List Item) (id : Item → String) :
    (items.map fun item => entryText (id item) true 1000 [] []) =
      (items.map id).map fun txId => entryText txId true 1000 [] [] := by
  rw [List.map_map]
  rfl

end Guest

/-! ## The three paths together -/

def idSender (txId : TransactionId) : String := "sender_" ++ txId.asStr

theorem fallback_senders (entries : List TraceEntry) :
    entries.map fallbackSender = (entries.map TraceEntry.txId).map idSender := by
  rw [List.map_map]
  rfl

/-- The fields in which two traces of one batch have to agree. -/
structure SameExecution (left right : ExecutionTrace) : Prop where
  stateRootPre : left.stateRootPre = right.stateRootPre
  stateRootPost : left.stateRootPost = right.stateRootPost
  traceHash : left.traceHash = right.traceHash
  totalCompute : left.totalCompute = right.totalCompute
  successCount : left.successCount = right.successCount
  failureCount : left.failureCount = right.failureCount

section Paths

variable {hashBytes : HashBytes} {executor : DeterministicExecutor} {mode : OverflowMode}
variable {batch : Batch} {trace : ExecutionTrace}

theorem execute_some (executed : executor.execute hashBytes mode batch = some trace) :
    NoopTrace hashBytes executor mode batch.txIds (batch.txIds.map idSender) trace := by
  have noop := noop_submissions_some hashBytes executor mode batch (by simp) executed
  simp only [List.map_map, Function.comp_def, List.map_id_fun', id_eq] at noop
  exact noop

theorem execute_returns (cap : 1000 ≤ executor.maxCuPerTx) (batch : Batch)
    (bounded : mode = .wrapping ∨ 1000 * batch.txIds.length < 2 ^ 64) :
    ∃ trace, executor.execute hashBytes mode batch = some trace := by
  have cost : min 1000 executor.maxCuPerTx = 1000 := if_pos cap
  have total : ∃ total, accumulate mode 0
      (List.replicate batch.txIds.length (min 1000 executor.maxCuPerTx)) = some total := by
    rcases bounded with release | fits
    · rw [release]
      exact accumulate_wrapping_total 0 _
    · have small : (0 : UInt64).toNat + ((List.replicate batch.txIds.length
          (min 1000 executor.maxCuPerTx)).map UInt64.toNat).sum < 2 ^ 64 := by
        rw [cost, List.map_replicate, List.sum_replicate_nat, UInt64.toNat_zero, Nat.zero_add]
        change batch.txIds.length * 1000 < 2 ^ 64
        omega
      rcases accumulate_exact mode 0 _ small with ⟨total, accumulated, _⟩
      exact ⟨total, accumulated⟩
  rcases total with ⟨total, accumulated⟩
  apply noop_submissions_complete hashBytes executor mode batch (by simp)
  rw [List.length_map]
  exact accumulated

/-- The full executor on the rebuilt transactions makes the same trace but for the
instruction labels. -/
theorem rebuilt_execution (noop : NoopTrace hashBytes executor mode batch.txIds
      (batch.txIds.map idSender) trace) :
    ∃ full, (FullExecutor.new executor.maxCuPerTx).executeWithTransactions hashBytes mode batch
        (trace.entries.map reconstructedTransaction) = some full ∧ SameExecution full trace := by
  let submissions := (trace.entries.map reconstructedTransaction).map submissionOf
  have noops : ∀ submission ∈ submissions, submission.instructionData = [3] := by
    intro submission member
    simp only [submissions, List.mem_map] at member
    rcases member with ⟨_, ⟨entry, _, rfl⟩, rfl⟩
    rfl
  have ids : submissions.map Submission.txId = batch.txIds := by
    rw [← noop.ids]
    simp only [submissions, List.map_map]
    rfl
  have senders : submissions.map Submission.sender = batch.txIds.map idSender := by
    rw [← noop.ids]
    simp only [submissions, List.map_map]
    rfl
  have length : submissions.length = batch.txIds.length := by
    have lengths := congrArg List.length ids
    rwa [List.length_map] at lengths
  have accumulated := noop.totalCompute
  rw [← length] at accumulated
  rcases noop_submissions_complete hashBytes (.new executor.maxCuPerTx) mode batch noops
    accumulated with ⟨full, executed⟩
  have rebuilt := noop_submissions_some hashBytes (.new executor.maxCuPerTx) mode batch noops
    executed
  rw [ids, senders] at rebuilt
  refine ⟨full, executed, ?_⟩
  constructor
  case stateRootPre => rw [rebuilt.stateRootPre, noop.stateRootPre]
  case stateRootPost => rw [rebuilt.stateRootPost, noop.stateRootPost]
  case traceHash =>
    rw [rebuilt.traceHash, noop.traceHash]
    rfl
  case totalCompute => exact Option.some.inj (rebuilt.totalCompute.symm.trans noop.totalCompute)
  case successCount => rw [rebuilt.successCount, noop.successCount]
  case failureCount => rw [rebuilt.failureCount, noop.failureCount]

theorem rebuilt_accepted (cap : 1000 ≤ executor.maxCuPerTx)
    (noop : NoopTrace hashBytes executor mode batch.txIds (batch.txIds.map idSender) trace) :
    GuestProgram.main hashBytes mode (proveStdin trace []) = some (traceInput trace).claimed := by
  have cost : min 1000 executor.maxCuPerTx = 1000 := if_pos cap
  let rebuilt := (trace.entries.map reconstructedTransaction).map serializableTransaction
  let state := initialBalances (trace.entries.map fallbackSender)
  have sameState : state = initialBalances (batch.txIds.map idSender) := by
    simp only [state]
    rw [fallback_senders, noop.ids]
  have ids : rebuilt.map SerializableTransaction.txId = batch.txIds.map TransactionId.asStr := by
    rw [← noop.ids]
    simp only [rebuilt, List.map_map]
    rfl
  have length : rebuilt.length = batch.txIds.length := by
    rw [← noop.ids]
    simp only [rebuilt, List.length_map]
  have noops : ∀ call ∈ rebuilt.map SerializableTransaction.call, call.instructionData = [3] := by
    intro call member
    simp only [rebuilt, List.mem_map] at member
    rcases member with ⟨_, ⟨_, ⟨entry, _, rfl⟩, rfl⟩, rfl⟩
    rfl
  have ran : run mode state (rebuilt.map SerializableTransaction.call) =
      some (state, List.replicate rebuilt.length (.applied [] [] 1000)) := by
    rw [noop_run state _ noops, List.length_map]
  have texts : (rebuilt.map fun tx => entryText tx.txId true 1000 [] []) =
      batch.txIds.map (noopText executor) := by
    have text : noopText executor = fun txId => entryText txId.asStr true 1000 [] [] := by
      funext txId
      rw [noopText, cost]
    rw [text, map_noop_text rebuilt SerializableTransaction.txId,
      map_noop_text batch.txIds TransactionId.asStr, ids]
  rw [GuestProgram.main_commits_iff]
  refine ⟨state, _, trace.totalCompute, ran, ?_, ?_, ?_, ?_, rfl, ?_, rfl⟩
  · change accumulate mode 0 ((reports rebuilt _).map _) = _
    rw [noop_reports, List.map_replicate, length]
    have accumulated := noop.totalCompute
    rwa [cost] at accumulated
  · change computeStateRoot hashBytes state = trace.stateRootPre
    rw [sameState, noop.stateRootPre]
  · change computeStateRoot hashBytes state = trace.stateRootPost
    rw [sameState, noop.stateRootPost]
  · change merkleRoot hashBytes ((reportTexts rebuilt _).map _) = trace.traceHash
    rw [noop_report_texts, texts, noop.traceHash]
  · change rebuilt.length = trace.entries.length
    rw [length, ← noop.ids, List.length_map]

end Paths

/-- A batch of transaction ids gets through the prover's fallback: the guest accepts
what is rebuilt from the trace, and so would the full executor. -/
theorem fallback_path_agrees (hashBytes : HashBytes) (mode : OverflowMode)
    (executor : DeterministicExecutor) (cap : 1000 ≤ executor.maxCuPerTx) (batch : Batch)
    (nonempty : batch.txIds ≠ []) :
    (mode = .wrapping ∨ 1000 * batch.txIds.length < 2 ^ 64 →
      ∃ trace, executor.execute hashBytes mode batch = some trace) ∧
    ∀ trace, executor.execute hashBytes mode batch = some trace →
      (∀ sp1Prove provingTimeMs generatedAt proofBytes,
        sp1Prove (proveStdin trace []) = .ok proofBytes →
        ∃ proof, prove hashBytes sp1Prove provingTimeMs generatedAt trace [] = .ok proof) ∧
      (∃ committed, GuestProgram.main hashBytes mode (proveStdin trace []) = some committed) ∧
      ∃ full, (FullExecutor.new executor.maxCuPerTx).executeWithTransactions hashBytes mode batch
          (proveArguments trace []).1 = some full ∧ SameExecution full trace := by
  refine ⟨execute_returns cap batch, ?_⟩
  intro trace executed
  have noop := execute_some executed
  have filled : trace.entries.isEmpty = false := by
    rw [List.isEmpty_eq_false_iff]
    intro empty
    have ids := noop.ids
    rw [empty] at ids
    exact nonempty ids.symm
  refine ⟨?_, ⟨_, rebuilt_accepted cap noop⟩, rebuilt_execution noop⟩
  intro sp1Prove provingTimeMs generatedAt proofBytes proved
  change sp1Prove (guestStdin trace _ _) = _ at proved
  rw [prove, proveWithTransactions, filled, proved]
  exact ⟨_, rfl⟩

theorem repeated_ids_are_accepted :
    ∃ trace, (DeterministicExecutor.new 1000).execute sampleDigest .panicking
        { Batch.new "batch_000001" 0 with txIds := [⟨"tx"⟩, ⟨"tx"⟩, ⟨"other"⟩] } = some trace ∧
      ∃ committed, GuestProgram.main sampleDigest .panicking (proveStdin trace []) =
        some committed := by
  have agrees := fallback_path_agrees sampleDigest .panicking (.new 1000) (by decide)
    { Batch.new "batch_000001" 0 with txIds := [⟨"tx"⟩, ⟨"tx"⟩, ⟨"other"⟩] } (by simp)
  rcases agrees.1 (.inr (by decide)) with ⟨trace, executed⟩
  exact ⟨trace, executed, (agrees.2 trace executed).2.1⟩

end CatalystSvm.ProverFallback
