import CatalystSvm.TraceBuilding
import CatalystSvm.LedgerMachine

/-!
# The host executors

Transcription of `crates/execution-engine/src/lib.rs`. `execute_instruction`
mutates the map in place and returns a `Result`; here it returns the map
together with the result, and `none` when an addition or subtraction panics.
`FullExecutor` wraps the `DeterministicExecutor` whose instruction semantics it
reuses. The clock readings of the source are never used and are left out.
-/

namespace CatalystSvm.ExecutionEngine

open CatalystSvm.CommonTypes CatalystSvm.CommonMerkle CatalystSvm.MachineArithmetic
open CatalystSvm.TraceBuilding CatalystSvm.LedgerMachine
open CatalystSvm.Library.StepFold

set_option autoImplicit false

inductive Opcode where
  | transfer
  | setData
  | increment
  | noop
  | invalid
  deriving DecidableEq, Repr

def Opcode.ofByte (value : UInt8) : Opcode :=
  match value.toNat with
  | 0 => .transfer
  | 1 => .setData
  | 2 => .increment
  | 3 => .noop
  | _ => .invalid

structure DeterministicExecutor where
  maxCuPerTx : UInt64
  failOnInvalid : Bool

def DeterministicExecutor.new (maxCuPerTx : UInt64) : DeterministicExecutor where
  maxCuPerTx := maxCuPerTx
  failOnInvalid := true

/-- The `Ok` payload: accounts read, accounts written, compute used. -/
structure Effects where
  reads : List String
  writes : List String
  compute : UInt64
  deriving DecidableEq, Repr

abbrev InstructionResult := Except ExecError Effects

def executeTransfer (mode : OverflowMode) (state : State) (sender : String)
    (data : List UInt8) : Option (State × InstructionResult) :=
  if data.length < 16 then some (state, .error (.invalidOpcode 0))
  else
    let amount := fromLeBytes (data.take 8)
    let targetIdx := fromLeBytes ((data.drop 8).take 8)
    let target := "account_" ++ toString targetIdx
    let senderBalance := state[sender]?.getD 0
    if senderBalance < amount then
      some (state, .error (.insufficientBalance amount senderBalance))
    else do
      let debited ← subU64 mode (state[sender]?.getD 0) amount
      let state := state.insert sender debited
      let credited ← addU64 mode (state[target]?.getD 0) amount
      let state := state.insert target credited
      some (state, .ok { reads := [sender, target], writes := [sender, target], compute := 5000 })

def executeSetData (state : State) (data : List UInt8) : State × InstructionResult :=
  if data.length < 16 then (state, .error (.invalidOpcode 1))
  else
    let keyIdx := fromLeBytes (data.take 8)
    let value := fromLeBytes ((data.drop 8).take 8)
    let key := "data_" ++ toString keyIdx
    (state.insert key value, .ok { reads := [], writes := [key], compute := 3000 })

def executeIncrement (state : State) (data : List UInt8) : State × InstructionResult :=
  if data.length < 16 then (state, .error (.invalidOpcode 2))
  else
    let keyIdx := fromLeBytes (data.take 8)
    let delta := fromLeBytes ((data.drop 8).take 8)
    let key := "data_" ++ toString keyIdx
    let newValue := saturatingAdd (state[key]?.getD 0) delta
    (state.insert key newValue, .ok { reads := [key], writes := [key], compute := 2000 })

def executeInstruction (executor : DeterministicExecutor) (mode : OverflowMode) (state : State)
    (sender : String) : List UInt8 → Option (State × InstructionResult)
  | [] => some (state, .error (.invalidOpcode 255))
  | opcode :: data =>
      match Opcode.ofByte opcode with
      | .transfer => executeTransfer mode state sender data
      | .setData => some (executeSetData state data)
      | .increment => some (executeIncrement state data)
      | .noop => some (state, .ok { reads := [], writes := [], compute := 1000 })
      | .invalid =>
          if executor.failOnInvalid then some (state, .error (.invalidOpcode opcode))
          else some (state, .ok { reads := [], writes := [], compute := 500 })

def initialBalances (senders : List String) : State :=
  senders.foldl (fun state sender => state.insertIfNew sender 1000000) ∅

/-- The trace entry of one executed transaction; `label` is the instruction text
of a success and `failedLabel` that of a failure. -/
def resultEntry (executor : DeterministicExecutor) (idx : Nat) (txId : TransactionId)
    (label failedLabel preStateHash postStateHash : String) : InstructionResult → TraceEntry
  | .ok effects =>
      { txIdx := idx
        txId := txId
        preStateHash := preStateHash
        instruction := label
        accountsRead := effects.reads
        accountsWritten := effects.writes
        postStateHash := postStateHash
        computeUsed := min effects.compute executor.maxCuPerTx
        success := true
        error := none }
  | .error error =>
      { txIdx := idx
        txId := txId
        preStateHash := preStateHash
        instruction := failedLabel
        accountsRead := []
        accountsWritten := []
        postStateHash := postStateHash
        computeUsed := 0
        success := false
        error := some error.text }

/-- What a loop body needs to know about one transaction. -/
structure Submission where
  txId : TransactionId
  sender : String
  instructionData : List UInt8
  label : String
  failedLabel : String

def Submission.call (submission : Submission) : Call where
  sender := submission.sender
  instructionData := submission.instructionData

/-- The loop shared by `execute` and `execute_with_transactions`. -/
def executeLoop (hashBytes : HashBytes) (executor : DeterministicExecutor) (mode : OverflowMode) :
    Nat → State → TraceBuilder → List Submission → Option (State × TraceBuilder)
  | _, state, builder, [] => some (state, builder)
  | idx, state, builder, submission :: rest => do
      let preStateHash := computeStateRoot hashBytes state
      let (next, result) ← executeInstruction executor mode state submission.sender
        submission.instructionData
      let postStateHash := computeStateRoot hashBytes next
      let builder ← builder.addEntry mode (resultEntry executor idx submission.txId
        submission.label submission.failedLabel preStateHash postStateHash result)
      executeLoop hashBytes executor mode (idx + 1) next builder rest

def executeSubmissions (hashBytes : HashBytes) (executor : DeterministicExecutor)
    (mode : OverflowMode) (batch : Batch) (submissions : List Submission) :
    Option ExecutionTrace := do
  let state := initialBalances (submissions.map Submission.sender)
  let builder := TraceBuilder.new hashBytes batch.batchId state
  let (final, builder) ← executeLoop hashBytes executor mode 0 state builder submissions
  some (builder.build hashBytes final)

/-- `DeterministicExecutor::execute`: every transaction id stands for a `Noop`. -/
def DeterministicExecutor.execute (hashBytes : HashBytes) (executor : DeterministicExecutor)
    (mode : OverflowMode) (batch : Batch) : Option ExecutionTrace :=
  executeSubmissions hashBytes executor mode batch (batch.txIds.map fun txId =>
    { txId := txId
      sender := "sender_" ++ txId.asStr
      instructionData := [3]
      label := "execute"
      failedLabel := "execute" })

structure FullExecutor where
  inner : DeterministicExecutor

def FullExecutor.new (maxCuPerTx : UInt64) : FullExecutor where
  inner := DeterministicExecutor.new maxCuPerTx

def submissionOf (tx : Transaction) : Submission where
  txId := tx.txId
  sender := tx.sender
  instructionData := tx.instructionData
  label := "opcode_" ++ toString (tx.instructionData.headD 255)
  failedLabel := "failed"

def FullExecutor.executeWithTransactions (hashBytes : HashBytes) (executor : FullExecutor)
    (mode : OverflowMode) (batch : Batch) (transactions : List Transaction) :
    Option ExecutionTrace :=
  executeSubmissions hashBytes executor.inner mode batch (transactions.map submissionOf)

/-- The map and the builder of `execute_with_transactions` after its first `count`
transactions. -/
def FullExecutor.loopAfter (hashBytes : HashBytes) (executor : FullExecutor)
    (mode : OverflowMode) (batch : Batch) (transactions : List Transaction) (count : Nat) :
    Option (State × TraceBuilder) :=
  let state := initialBalances (transactions.map Transaction.sender)
  executeLoop hashBytes executor.inner mode 0 state (TraceBuilder.new hashBytes batch.batchId state)
    ((transactions.take count).map submissionOf)

theorem execute_with_transactions_eq (hashBytes : HashBytes) (executor : FullExecutor)
    (mode : OverflowMode) (batch : Batch) (transactions : List Transaction) :
    executor.executeWithTransactions hashBytes mode batch transactions =
      (executor.loopAfter hashBytes mode batch transactions transactions.length).map fun ended =>
        ended.2.build hashBytes ended.1 := by
  rw [FullExecutor.executeWithTransactions, executeSubmissions, FullExecutor.loopAfter,
    List.take_length, List.map_map]
  exact Option.map_eq_bind.symm

def hostReport : Instruction → Outcome → InstructionResult
  | _, .applied reads writes compute => .ok { reads, writes, compute }
  | _, .overdrawn needed available => .error (.insufficientBalance needed available)
  | .truncated opcode, .refused => .error (.invalidOpcode opcode)
  | .unknown opcode, .refused => .error (.invalidOpcode opcode)
  | _, .refused => .error (.invalidOpcode 255)

/-- The part of a result that the trace entry commits to. -/
def hostText (executor : DeterministicExecutor) (submission : Submission) (outcome : Outcome) :
    String :=
  match outcome with
  | .applied reads writes compute =>
      entryText submission.txId.asStr true (min compute executor.maxCuPerTx) reads writes
  | _ => entryText submission.txId.asStr false 0 [] []

def hostCompute (executor : DeterministicExecutor) : Outcome → UInt64
  | .applied _ _ compute => min compute executor.maxCuPerTx
  | _ => 0

theorem opcode_of_unknown (opcode : UInt8) (unknown : 3 < opcode) :
    Opcode.ofByte opcode = .invalid := by
  have large : 3 < opcode.toNat := unknown
  unfold Opcode.ofByte
  split <;> first | omega | rfl

/-- The executor refines the ledger: it moves the map exactly as the machine
does and reports every outcome. -/
theorem execute_instruction_refines (executor : DeterministicExecutor)
    (strict : executor.failOnInvalid = true) (mode : OverflowMode) (state : State)
    (sender : String) (data : List UInt8) :
    executeInstruction executor mode state sender data =
      (perform mode state sender (decode data)).map fun result =>
        (result.1, hostReport (decode data) result.2) := by
  have shape := decode_spec data
  generalize decode data = instruction at shape ⊢
  cases shape with
  | empty => rfl
  | unknown large =>
      rw [executeInstruction, opcode_of_unknown _ large, strict]
      rfl
  | noop => rfl
  | truncated known short =>
      rcases known with rfl | rfl | rfl
      · change executeTransfer mode state sender _ = _
        rw [executeTransfer, if_pos short]
        rfl
      · change some (executeSetData state _) = _
        rw [executeSetData, if_pos short]
        rfl
      · change some (executeIncrement state _) = _
        rw [executeIncrement, if_pos short]
        rfl
  | @transfer operands long =>
      change executeTransfer mode state sender operands = _
      rw [executeTransfer, if_neg long, perform]
      change (if balanceOf state sender < firstOperand operands then _ else _) = _
      by_cases overdrawn : balanceOf state sender < firstOperand operands
      · rw [if_pos overdrawn, if_pos overdrawn]
        rfl
      · rw [if_neg overdrawn, if_neg overdrawn]
        simp only [bind, Option.map_bind, Function.comp_def, Option.map_some]
        rfl
  | setData long =>
      change some (executeSetData state _) = _
      rw [executeSetData, if_neg long]
      rfl
  | increment long =>
      change some (executeIncrement state _) = _
      rw [executeIncrement, if_neg long]
      rfl

def executorReport (executor : DeterministicExecutor) (instruction : Instruction)
    (outcome : Outcome) : InstructionResult :=
  match outcome, instruction with
  | .refused, .unknown opcode =>
      if executor.failOnInvalid then .error (.invalidOpcode opcode)
      else .ok { reads := [], writes := [], compute := 500 }
  | outcome, instruction => hostReport instruction outcome

theorem execute_instruction_reports (executor : DeterministicExecutor) (mode : OverflowMode)
    (state : State) (sender : String) (data : List UInt8) :
    executeInstruction executor mode state sender data =
      (perform mode state sender (decode data)).map fun result =>
        (result.1, executorReport executor (decode data) result.2) := by
  have strict := execute_instruction_refines { executor with failOnInvalid := true } rfl mode
    state sender data
  have shape := decode_spec data
  generalize decode data = instruction at shape strict ⊢
  cases shape with
  | unknown large =>
      rw [executeInstruction, opcode_of_unknown _ large]
      cases lenient : executor.failOnInvalid <;> simp [perform, executorReport, lenient]
  | truncated known short =>
      rcases known with rfl | rfl | rfl
      · exact strict
      · exact strict
      · exact strict
  | empty => exact strict
  | noop => exact strict
  | @transfer operands long =>
      have report (amount targetIdx : UInt64) :
          executorReport executor (.transfer amount targetIdx) =
            hostReport (.transfer amount targetIdx) := by
        funext outcome
        cases outcome <;> rfl
      rw [report]
      exact strict
  | setData long => exact strict
  | increment long => exact strict

theorem result_entry_text (executor : DeterministicExecutor) (idx : Nat)
    (submission : Submission) (pre post : String) (outcome : Outcome) :
    traceText (resultEntry executor idx submission.txId submission.label submission.failedLabel
        pre post (hostReport (decode submission.instructionData) outcome)) =
      hostText executor submission outcome := by
  cases outcome with
  | applied reads writes compute => rfl
  | overdrawn needed available => rfl
  | refused => cases decode submission.instructionData <;> rfl

theorem result_entry_compute (executor : DeterministicExecutor) (idx : Nat)
    (submission : Submission) (pre post : String) (outcome : Outcome) :
    (resultEntry executor idx submission.txId submission.label submission.failedLabel
        pre post (hostReport (decode submission.instructionData) outcome)).computeUsed =
      hostCompute executor outcome := by
  cases outcome with
  | applied reads writes compute => rfl
  | overdrawn needed available => rfl
  | refused => cases decode submission.instructionData <;> rfl

/-- A completed loop is a ledger run; the builder carries its committed texts and
the accumulated compute. -/
theorem execute_loop_some (hashBytes : HashBytes) (executor : DeterministicExecutor)
    (strict : executor.failOnInvalid = true) (mode : OverflowMode) (idx : Nat) (state : State)
    (builder : TraceBuilder) (submissions : List Submission) (final : State)
    (built : TraceBuilder)
    (completed : executeLoop hashBytes executor mode idx state builder submissions =
      some (final, built)) :
    ∃ outcomes, run mode state (submissions.map Submission.call) = some (final, outcomes) ∧
      accumulate mode builder.totalCompute (outcomes.map (hostCompute executor)) =
        some built.totalCompute ∧
      built.entries.map traceText =
        builder.entries.map traceText ++ List.zipWith (hostText executor) submissions outcomes ∧
      built.batchId = builder.batchId ∧ built.preStateRoot = builder.preStateRoot := by
  induction submissions generalizing idx state builder with
  | nil =>
      simp only [executeLoop, Option.some.injEq, Prod.mk.injEq] at completed
      rcases completed with ⟨rfl, rfl⟩
      exact ⟨[], rfl, rfl, by simp, rfl, rfl⟩
  | cons submission rest ih =>
      simp only [executeLoop, execute_instruction_refines executor strict, bind,
        Option.bind_eq_some_iff, Option.map_eq_some_iff, TraceBuilder.addEntry,
        Option.some.injEq] at completed
      rcases completed with
        ⟨_, ⟨⟨next, outcome⟩, performed, rfl⟩, _, ⟨total, added, rfl⟩, continued⟩
      rcases ih _ _ _ continued with ⟨outcomes, ran, accumulated, texts, sameId, sameRoot⟩
      rw [result_entry_compute] at added
      refine ⟨outcome :: outcomes, ?_, ?_, ?_, sameId, sameRoot⟩
      · exact run_steps_cons_of performed ran
      · rw [List.map_cons, accumulate_cons, added]
        exact accumulated
      · rw [texts]
        simp only [List.map_append, List.map_cons, List.map_nil, List.zipWith_cons_cons,
          List.append_assoc, List.singleton_append, result_entry_text]

theorem execute_loop_completes (hashBytes : HashBytes) (executor : DeterministicExecutor)
    (strict : executor.failOnInvalid = true) (mode : OverflowMode) (idx : Nat) (state : State)
    (builder : TraceBuilder) (submissions : List Submission) (final : State)
    (outcomes : List Outcome) (total : UInt64)
    (ran : run mode state (submissions.map Submission.call) = some (final, outcomes))
    (accumulated : accumulate mode builder.totalCompute (outcomes.map (hostCompute executor)) =
      some total) :
    ∃ built, executeLoop hashBytes executor mode idx state builder submissions =
      some (final, built) := by
  induction submissions generalizing idx state builder outcomes with
  | nil =>
      simp only [List.map_nil, run, runSteps, Option.some.injEq, Prod.mk.injEq] at ran
      exact ⟨builder, by rw [executeLoop, ran.1]⟩
  | cons submission rest ih =>
      rcases run_steps_cons_some ran with ⟨next, outcome, others, performed, continued, rfl⟩
      rw [List.map_cons, accumulate_cons, Option.bind_eq_some_iff] at accumulated
      rcases accumulated with ⟨partialTotal, added, accumulated⟩
      change perform mode state submission.sender (decode submission.instructionData) = _
        at performed
      simp only [executeLoop, execute_instruction_refines executor strict, performed, bind,
        Option.map_some, Option.bind_some, TraceBuilder.addEntry, result_entry_compute, added]
      exact ih _ _ _ _ continued accumulated

theorem entry_hashes_eq (hashBytes : HashBytes) (entries : List TraceEntry) :
    entries.map (entryHash hashBytes) = (entries.map traceText).map (hashStr hashBytes) := by
  rw [List.map_map]
  rfl

theorem execute_submissions_some (hashBytes : HashBytes) (executor : DeterministicExecutor)
    (strict : executor.failOnInvalid = true) (mode : OverflowMode) (batch : Batch)
    (submissions : List Submission) (trace : ExecutionTrace)
    (executed : executeSubmissions hashBytes executor mode batch submissions = some trace) :
    ∃ final outcomes,
      run mode (initialBalances (submissions.map Submission.sender))
        (submissions.map Submission.call) = some (final, outcomes) ∧
      accumulate mode 0 (outcomes.map (hostCompute executor)) = some trace.totalCompute ∧
      trace.entries.map traceText = List.zipWith (hostText executor) submissions outcomes ∧
      trace.batchId = batch.batchId ∧
      trace.stateRootPre =
        computeStateRoot hashBytes (initialBalances (submissions.map Submission.sender)) ∧
      trace.stateRootPost = computeStateRoot hashBytes final ∧
      trace.traceHash = merkleRoot hashBytes
        ((List.zipWith (hostText executor) submissions outcomes).map (hashStr hashBytes)) := by
  simp only [executeSubmissions, bind, Option.bind_eq_some_iff, Option.some.injEq] at executed
  rcases executed with ⟨⟨final, built⟩, looped, rfl⟩
  rcases execute_loop_some hashBytes executor strict mode _ _ _ _ _ _ looped with
    ⟨outcomes, ran, accumulated, texts, sameId, sameRoot⟩
  have exact : built.entries.map traceText =
      List.zipWith (hostText executor) submissions outcomes := by
    simpa [TraceBuilder.new] using texts
  refine ⟨final, outcomes, ran, accumulated, exact, sameId, sameRoot, rfl, ?_⟩
  simp only [TraceBuilder.build]
  rw [entry_hashes_eq, exact]

theorem execute_submissions_completes (hashBytes : HashBytes) (executor : DeterministicExecutor)
    (strict : executor.failOnInvalid = true) (mode : OverflowMode) (batch : Batch)
    (submissions : List Submission) (final : State) (outcomes : List Outcome) (total : UInt64)
    (ran : run mode (initialBalances (submissions.map Submission.sender))
      (submissions.map Submission.call) = some (final, outcomes))
    (accumulated : accumulate mode 0 (outcomes.map (hostCompute executor)) = some total) :
    ∃ trace, executeSubmissions hashBytes executor mode batch submissions = some trace := by
  let state := initialBalances (submissions.map Submission.sender)
  let builder := TraceBuilder.new hashBytes batch.batchId state
  rcases execute_loop_completes hashBytes executor strict mode 0 state builder submissions
    final outcomes total ran accumulated with ⟨built, looped⟩
  refine ⟨built.build hashBytes final, ?_⟩
  simp only [executeSubmissions, bind]
  change (executeLoop hashBytes executor mode 0 state builder submissions).bind _ = _
  rw [looped]
  rfl

theorem execute_submissions_wrapping_total (hashBytes : HashBytes)
    (executor : DeterministicExecutor) (strict : executor.failOnInvalid = true) (batch : Batch)
    (submissions : List Submission) :
    ∃ trace, executeSubmissions hashBytes executor .wrapping batch submissions = some trace := by
  rcases run_wrapping_total (initialBalances (submissions.map Submission.sender))
    (submissions.map Submission.call) with ⟨final, outcomes, ran⟩
  rcases accumulate_wrapping_total 0 (outcomes.map (hostCompute executor)) with
    ⟨total, accumulated⟩
  exact execute_submissions_completes hashBytes executor strict .wrapping batch submissions final
    outcomes total ran accumulated

end CatalystSvm.ExecutionEngine
