import CatalystSvm.WriteFrames
import CatalystSvm.BatchContinuity

/-!
# The shape of an execution trace

Entry by entry the executor hashes the map before and after a transaction, and
the builder adds up compute and outcomes. The entries of a trace form a chain of
state hashes from one root to the other.
-/

namespace CatalystSvm.TraceShape

open CatalystSvm.CommonTypes CatalystSvm.CommonMerkle CatalystSvm.MachineArithmetic
open CatalystSvm.TraceBuilding CatalystSvm.LedgerMachine CatalystSvm.ExecutionEngine
open CatalystSvm.WriteFrames CatalystSvm.Library.StepFold

set_option autoImplicit false

/-! ## Chains of entries -/

structure Describes (maxCuPerTx : UInt64) (index : Nat) (submission : Submission)
    (preHash postHash : String) (entry : TraceEntry) : Prop where
  txIdx : entry.txIdx = index
  txId : entry.txId = submission.txId
  pre : entry.preStateHash = preHash
  post : entry.postStateHash = postHash
  idle : entry.success = false ∨ entry.accountsWritten = [] → preHash = postHash
  capped : entry.computeUsed ≤ maxCuPerTx
  modest : entry.computeUsed ≤ 5000

/-- One entry for each transaction, from a first hash to a last one. -/
inductive EntryChain (maxCuPerTx : UInt64) :
    Nat → String → List Submission → List TraceEntry → String → Prop where
  | done {index : Nat} {root : String} : EntryChain maxCuPerTx index root [] [] root
  | step {index : Nat} {first next last : String} {submission : Submission}
      {rest : List Submission} {entry : TraceEntry} {others : List TraceEntry}
      (head : Describes maxCuPerTx index submission first next entry)
      (tail : EntryChain maxCuPerTx (index + 1) next rest others last) :
      EntryChain maxCuPerTx index first (submission :: rest) (entry :: others) last

section Chains

variable {maxCuPerTx : UInt64} {index : Nat} {first last : String}
variable {submissions : List Submission} {entries : List TraceEntry}

theorem chain_length (chain : EntryChain maxCuPerTx index first submissions entries last) :
    entries.length = submissions.length := by
  induction chain with
  | done => rfl
  | step head tail ih => rw [List.length_cons, List.length_cons, ih]

theorem chain_entry (chain : EntryChain maxCuPerTx index first submissions entries last)
    {place : Nat} {entry : TraceEntry} (found : entries[place]? = some entry) :
    ∃ submission pre post, submissions[place]? = some submission ∧
      Describes maxCuPerTx (index + place) submission pre post entry := by
  induction chain generalizing place with
  | done => cases found
  | step head tail ih =>
      cases place with
      | zero =>
          cases found
          exact ⟨_, _, _, rfl, head⟩
      | succ place =>
          rcases ih found with ⟨submission, pre, post, listed, described⟩
          rw [Nat.add_right_comm, Nat.add_assoc] at described
          exact ⟨submission, pre, post, listed, described⟩

theorem chain_member (chain : EntryChain maxCuPerTx index first submissions entries last)
    {entry : TraceEntry} (member : entry ∈ entries) :
    ∃ place submission pre post, Describes maxCuPerTx place submission pre post entry := by
  rcases List.mem_iff_getElem?.mp member with ⟨place, found⟩
  rcases chain_entry chain found with ⟨submission, pre, post, _, described⟩
  exact ⟨index + place, submission, pre, post, described⟩

theorem chain_first (chain : EntryChain maxCuPerTx index first submissions entries last)
    {entry : TraceEntry} (found : entries[0]? = some entry) : entry.preStateHash = first := by
  cases chain with
  | done => cases found
  | step head tail =>
      cases found
      exact head.pre

theorem chain_linked (chain : EntryChain maxCuPerTx index first submissions entries last)
    {place : Nat} {entry next : TraceEntry} (found : entries[place]? = some entry)
    (follows : entries[place + 1]? = some next) : entry.postStateHash = next.preStateHash := by
  induction chain generalizing place with
  | done => cases found
  | step head tail ih =>
      cases place with
      | zero =>
          cases found
          rw [head.post, chain_first tail follows]
      | succ place => exact ih found follows

theorem chain_last (chain : EntryChain maxCuPerTx index first submissions entries last)
    {entry : TraceEntry} (found : entries.getLast? = some entry) :
    entry.postStateHash = last := by
  induction chain with
  | done => cases found
  | step head tail ih =>
      cases tail with
      | done =>
          cases found
          exact head.post
      | step second rest =>
          rw [List.getLast?_cons_cons] at found
          exact ih found

theorem chain_roots (chain : EntryChain maxCuPerTx index first [] entries last) :
    last = first := by
  cases chain
  rfl

theorem chain_compute (chain : EntryChain maxCuPerTx index first submissions entries last) :
    ((entries.map TraceEntry.computeUsed).map UInt64.toNat).sum ≤ 5000 * submissions.length := by
  induction chain with
  | done => exact Nat.le_refl _
  | step head tail ih =>
      have cost : _ ≤ 5000 := UInt64.le_iff_toNat_le.mp head.modest
      simp only [List.map_cons, List.sum_cons, List.length_cons]
      omega

end Chains

/-! ## The executor's loop -/

structure Gains (mode : OverflowMode) (before after : TraceBuilder) (fresh : List TraceEntry) :
    Prop where
  batchId : after.batchId = before.batchId
  preStateRoot : after.preStateRoot = before.preStateRoot
  entries : after.entries = before.entries ++ fresh
  compute : accumulate mode before.totalCompute (fresh.map TraceEntry.computeUsed) =
    some after.totalCompute
  successes : after.successCount = before.successCount + fresh.countP TraceEntry.success
  failures : after.failureCount = before.failureCount + fresh.countP fun entry => !entry.success

theorem gains_nothing (mode : OverflowMode) (builder : TraceBuilder) :
    Gains mode builder builder [] := by
  constructor <;> simp [accumulate]

theorem gains_entry {mode : OverflowMode} {before middle after : TraceBuilder}
    {entry : TraceEntry} {fresh : List TraceEntry}
    (added : before.addEntry mode entry = some middle) (gains : Gains mode middle after fresh) :
    Gains mode before after (entry :: fresh) := by
  simp only [TraceBuilder.addEntry, bind, Option.bind_eq_some_iff, Option.some.injEq] at added
  rcases added with ⟨sum, summed, moved⟩
  subst moved
  constructor
  case batchId => exact gains.batchId
  case preStateRoot => exact gains.preStateRoot
  case entries => rw [gains.entries, List.append_assoc, List.singleton_append]
  case compute =>
    rw [List.map_cons, accumulate_cons, summed]
    exact gains.compute
  case successes =>
    rw [gains.successes, List.countP_cons]
    cases entry.success <;> simp [Nat.add_assoc, Nat.add_comm]
  case failures =>
    rw [gains.failures, List.countP_cons]
    cases entry.success <;> simp [Nat.add_assoc, Nat.add_comm]

theorem write_frame_nothing {before after : State} (frame : WriteFrame [] before after) :
    after = before := by
  apply Std.ExtTreeMap.ext_getElem?
  intro key
  exact frame.others key (by simp)

theorem executed_describes (hashBytes : HashBytes) {maxCuPerTx : UInt64} {mode : OverflowMode}
    {state next : State} {submission : Submission} {result : InstructionResult} (index : Nat)
    (executed : executeInstruction (.new maxCuPerTx) mode state submission.sender
      submission.instructionData = some (next, result)) :
    Describes maxCuPerTx index submission (computeStateRoot hashBytes state)
      (computeStateRoot hashBytes next)
      (resultEntry (.new maxCuPerTx) index submission.txId submission.label
        submission.failedLabel (computeStateRoot hashBytes state)
        (computeStateRoot hashBytes next) result) := by
  have framed := host_frame executed
  have affordable : ∀ effects, result = .ok effects → effects.compute ≤ 5000 := by
    intro effects succeeded
    rw [execute_instruction_refines _ rfl, Option.map_eq_some_iff] at executed
    rcases executed with ⟨⟨moved, outcome⟩, performed, reported⟩
    rw [succeeded] at reported
    cases outcome with
    | applied reads writes compute =>
        cases reported
        exact perform_compute_le performed
    | overdrawn needed available => cases reported
    | refused =>
        generalize decode submission.instructionData = instruction at reported
        cases instruction <;> cases reported
  cases result with
  | error error =>
      have same : next = state := framed
      subst same
      exact ⟨rfl, rfl, rfl, rfl, fun _ => rfl, UInt64.zero_le, UInt64.zero_le⟩
  | ok effects =>
      have frame : WriteFrame effects.writes state next := framed
      refine ⟨rfl, rfl, rfl, rfl, ?_, ?_, ?_⟩
      · intro either
        rcases either with failed | nothing
        · cases failed
        · change effects.writes = [] at nothing
          rw [nothing] at frame
          rw [write_frame_nothing frame]
      · exact Std.min_le_right
      · exact UInt64.le_trans Std.min_le_left (affordable effects rfl)

/-- The loop appends a chain from the root it starts with to the one it ends with. -/
theorem execute_loop_chain (hashBytes : HashBytes) {maxCuPerTx : UInt64} {mode : OverflowMode}
    {index : Nat} {state final : State} {builder built : TraceBuilder}
    {submissions : List Submission}
    (completed : executeLoop hashBytes (.new maxCuPerTx) mode index state builder submissions =
      some (final, built)) :
    ∃ fresh, EntryChain maxCuPerTx index (computeStateRoot hashBytes state) submissions fresh
        (computeStateRoot hashBytes final) ∧ Gains mode builder built fresh := by
  induction submissions generalizing index state builder with
  | nil =>
      cases completed
      exact ⟨[], .done, gains_nothing mode _⟩
  | cons submission rest ih =>
      simp only [executeLoop, bind, Option.bind_eq_some_iff] at completed
      rcases completed with ⟨⟨next, result⟩, executed, middle, added, continued⟩
      rcases ih continued with ⟨fresh, chain, gains⟩
      exact ⟨_, .step (executed_describes hashBytes index executed) chain,
        gains_entry added gains⟩

/-! ## Traces -/

structure WellFormedTrace (hashBytes : HashBytes) (maxCuPerTx : UInt64)
    (transactions : List Transaction) (trace : ExecutionTrace) : Prop where
  entryCount : trace.entries.length = transactions.length
  entryIds : ∀ (index : Nat) (entry : TraceEntry), trace.entries[index]? = some entry →
    entry.txIdx = index ∧ ∃ tx : Transaction, transactions[index]? = some tx ∧
      entry.txId = tx.txId
  startsAtRoot : ∀ entry : TraceEntry, trace.entries[0]? = some entry →
    entry.preStateHash = trace.stateRootPre
  linked : ∀ (index : Nat) (entry next : TraceEntry), trace.entries[index]? = some entry →
    trace.entries[index + 1]? = some next → entry.postStateHash = next.preStateHash
  endsAtRoot : ∀ entry : TraceEntry, trace.entries.getLast? = some entry →
    entry.postStateHash = trace.stateRootPost
  emptyRoots : transactions = [] → trace.stateRootPost = trace.stateRootPre
  idleEntries : ∀ entry ∈ trace.entries, entry.success = false ∨ entry.accountsWritten = [] →
    entry.preStateHash = entry.postStateHash
  successes : trace.successCount = trace.entries.countP TraceEntry.success
  failures : trace.failureCount = trace.entries.countP fun entry => !entry.success
  outcomes : trace.successCount + trace.failureCount = trace.entries.length
  totalCompute : trace.totalCompute.toNat =
    ((trace.entries.map TraceEntry.computeUsed).map UInt64.toNat).sum
  computeCap : ∀ entry ∈ trace.entries, entry.computeUsed ≤ maxCuPerTx
  traceHash : trace.traceHash = merkleRoot hashBytes (trace.entries.map (entryHash hashBytes))

theorem built_well_formed (hashBytes : HashBytes) {maxCuPerTx : UInt64} {mode : OverflowMode}
    {transactions : List Transaction} {batchId : String} {state final : State}
    {built : TraceBuilder} {fresh : List TraceEntry}
    (small : 5000 * transactions.length < 2 ^ 64)
    (chain : EntryChain maxCuPerTx 0 (computeStateRoot hashBytes state)
      (transactions.map submissionOf) fresh (computeStateRoot hashBytes final))
    (gains : Gains mode (.new hashBytes batchId state) built fresh) :
    WellFormedTrace hashBytes maxCuPerTx transactions (built.build hashBytes final) := by
  have entries : built.entries = fresh := by
    rw [gains.entries]
    exact List.nil_append fresh
  have cost := chain_compute chain
  rw [List.length_map] at cost
  rcases accumulate_exact mode 0 (fresh.map TraceEntry.computeUsed)
    (by rw [UInt64.toNat_zero]; omega) with ⟨total, summed, value⟩
  have totals : built.totalCompute = total := Option.some.inj (gains.compute.symm.trans summed)
  have succeeded : built.successCount = fresh.countP TraceEntry.success := by
    rw [gains.successes]
    exact Nat.zero_add _
  have failed : built.failureCount = fresh.countP fun entry => !entry.success := by
    rw [gains.failures]
    exact Nat.zero_add _
  constructor
  all_goals simp only [TraceBuilder.build, entries]
  case entryCount =>
    rw [chain_length chain, List.length_map]
  case entryIds =>
    intro index entry found
    rcases chain_entry chain found with ⟨submission, pre, post, listed, described⟩
    rw [List.getElem?_map, Option.map_eq_some_iff] at listed
    rcases listed with ⟨tx, taken, own⟩
    refine ⟨described.txIdx.trans (Nat.zero_add index), tx, taken, ?_⟩
    rw [described.txId, ← own]
    rfl
  case startsAtRoot =>
    intro entry found
    rw [chain_first chain found, gains.preStateRoot]
    rfl
  case linked =>
    intro index entry next found follows
    exact chain_linked chain found follows
  case endsAtRoot =>
    intro entry found
    exact chain_last chain found
  case emptyRoots =>
    intro none
    rw [none] at chain
    rw [chain_roots chain, gains.preStateRoot]
    rfl
  case idleEntries =>
    intro entry member either
    rcases chain_member chain member with ⟨index, submission, pre, post, described⟩
    rw [described.pre, described.post]
    exact described.idle either
  case successes => exact succeeded
  case failures => exact failed
  case outcomes =>
    have split := List.length_eq_countP_add_countP TraceEntry.success (l := fresh)
    simp only [decide_not, Bool.decide_eq_true] at split
    rw [succeeded, failed, split]
  case totalCompute =>
    rw [totals, value, UInt64.toNat_zero, Nat.zero_add]
  case computeCap =>
    intro entry member
    rcases chain_member chain member with ⟨index, submission, pre, post, described⟩
    exact described.capped

/-- Every trace that the executor returns is well formed, and it returns one whenever
additions wrap. -/
theorem executed_trace_well_formed (hashBytes : HashBytes) (maxCuPerTx : UInt64)
    (mode : OverflowMode) (batch : Batch) (transactions : List Transaction)
    (small : 5000 * transactions.length < 2 ^ 64) :
    (mode = .wrapping → ∃ trace, (FullExecutor.new maxCuPerTx).executeWithTransactions hashBytes
      mode batch transactions = some trace) ∧
    ∀ trace, (FullExecutor.new maxCuPerTx).executeWithTransactions hashBytes mode batch
        transactions = some trace →
      WellFormedTrace hashBytes maxCuPerTx transactions trace := by
  constructor
  · intro release
    subst release
    exact execute_submissions_wrapping_total hashBytes _ rfl batch _
  · intro trace executed
    rw [FullExecutor.executeWithTransactions, executeSubmissions] at executed
    simp only [bind, Option.bind_eq_some_iff, Option.some.injEq] at executed
    rcases executed with ⟨⟨final, built⟩, looped, same⟩
    subst same
    rcases execute_loop_chain hashBytes looped with ⟨fresh, chain, gains⟩
    exact built_well_formed hashBytes small chain gains

def threeOutcomes : List Transaction :=
  [{ Transaction.new ⟨"a"⟩ "alice" "program" with instructionData := transferBytes 5 7 },
    { Transaction.new ⟨"b"⟩ "bob" "program" with instructionData := transferBytes 2000000 7 },
    Transaction.new ⟨"c"⟩ "carol" "program"]

theorem three_outcomes_well_formed :
    ∃ trace, (FullExecutor.new 1500).executeWithTransactions sampleDigest .panicking
        (.new "batch_000001" 0) threeOutcomes = some trace ∧
      trace.totalCompute = 1500 ∧ trace.successCount = 1 ∧
      WellFormedTrace sampleDigest 1500 threeOutcomes trace := by
  have totals : ((FullExecutor.new 1500).executeWithTransactions sampleDigest .panicking
      (.new "batch_000001" 0) threeOutcomes).map
        (fun trace => (trace.totalCompute, trace.successCount)) = some (1500, 1) := by
    decide +kernel
  rcases Option.map_eq_some_iff.mp totals with ⟨trace, executed, values⟩
  refine ⟨trace, executed, congrArg Prod.fst values, congrArg Prod.snd values, ?_⟩
  exact (executed_trace_well_formed sampleDigest 1500 .panicking (.new "batch_000001" 0)
    threeOutcomes (by decide)).2 trace executed

end CatalystSvm.TraceShape
