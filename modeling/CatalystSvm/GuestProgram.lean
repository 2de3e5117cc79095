import Mathlib.Data.Option.Basic
import CatalystSvm.TraceBuilding
import CatalystSvm.LedgerMachine

/-!
# The SP1 guest program

Transcription of `crates/sp1-program/src/main.rs`, the program whose runs are
proved. It carries its own interpreter, its own Merkle root and its own state
root. Every panic of the guest (a failed assertion, an overflow, an index out of
range) is `none`: a panicking run commits nothing and has no proof.
-/

namespace CatalystSvm.GuestProgram

open CatalystSvm.CommonMerkle CatalystSvm.MachineArithmetic
open CatalystSvm.LedgerMachine
open CatalystSvm.Library.MerkleLevels CatalystSvm.Library.StepFold

set_option autoImplicit false

structure SerializableTransaction where
  txId : String
  sender : String
  instructionData : List UInt8
  deriving DecidableEq, Repr

structure ExecutionTraceInput where
  batchId : String
  stateRootPre : String
  stateRootPost : String
  traceHash : String
  totalCompute : UInt64
  txCount : Nat
  deriving DecidableEq, Repr

structure PublicInputs where
  batchId : String
  stateRootPre : String
  stateRootPost : String
  traceHash : String
  totalCompute : UInt64
  txCount : Nat
  deriving DecidableEq, Repr

def ExecutionTraceInput.claimed (trace : ExecutionTraceInput) : PublicInputs where
  batchId := trace.batchId
  stateRootPre := trace.stateRootPre
  stateRootPost := trace.stateRootPost
  traceHash := trace.traceHash
  totalCompute := trace.totalCompute
  txCount := trace.txCount

/-- The three values `main` reads, in this order. -/
structure Stdin where
  trace : ExecutionTraceInput
  transactions : List SerializableTransaction
  initialState : State

def SerializableTransaction.call (tx : SerializableTransaction) : Call where
  sender := tx.sender
  instructionData := tx.instructionData

/-- `current[0].clone()` indexes the result of the loop. -/
def merkleRoot (hashBytes : HashBytes) (leaves : List String) : Option String :=
  if leaves.isEmpty then some (hashBytes (asBytes "empty"))
  else if leaves.length = 1 then leaves[0]?
  else (levelLoop (hashStr hashBytes) concat leaves.length leaves)[0]?

def computeStateRoot (hashBytes : HashBytes) (state : State) : Option String :=
  if state.isEmpty then some (hashStr hashBytes "empty_state")
  else merkleRoot hashBytes (state.toList.map fun entry => hashStr hashBytes (leafText entry))

def hashTraceEntry (hashBytes : HashBytes) (txId : String) (success : Bool)
    (computeUsed : UInt64) (accountsRead accountsWritten : List String) : String :=
  hashStr hashBytes (entryText txId success computeUsed accountsRead accountsWritten)

structure InstructionResult where
  reads : List String
  writes : List String
  compute : UInt64
  success : Bool
  error : Option String
  deriving DecidableEq, Repr

def executeInstruction (mode : OverflowMode) (state : State) (sender : String) :
    List UInt8 → Option (State × InstructionResult)
  | [] => some (state, ⟨[], [], 0, false, some "empty instruction"⟩)
  | opcode :: data =>
      match opcode.toNat with
      | 0 =>
          if data.length < 16 then
            some (state, ⟨[], [], 0, false, some "invalid transfer data"⟩)
          else
            let amount := fromLeBytes (data.take 8)
            let targetIdx := fromLeBytes ((data.drop 8).take 8)
            let target := "account_" ++ toString targetIdx
            let senderBalance := state[sender]?.getD 0
            if senderBalance < amount then
              some (state, ⟨[sender], [], 5000, false, some "insufficient balance"⟩)
            else do
              let debited ← subU64 mode (state[sender]?.getD 0) amount
              let state := state.insert sender debited
              let credited ← addU64 mode (state[target]?.getD 0) amount
              let state := state.insert target credited
              some (state, ⟨[sender, target], [sender, target], 5000, true, none⟩)
      | 1 =>
          if data.length < 16 then some (state, ⟨[], [], 0, false, some "invalid setdata"⟩)
          else
            let keyIdx := fromLeBytes (data.take 8)
            let value := fromLeBytes ((data.drop 8).take 8)
            let key := "data_" ++ toString keyIdx
            some (state.insert key value, ⟨[], [key], 3000, true, none⟩)
      | 2 =>
          if data.length < 16 then some (state, ⟨[], [], 0, false, some "invalid increment"⟩)
          else
            let keyIdx := fromLeBytes (data.take 8)
            let delta := fromLeBytes ((data.drop 8).take 8)
            let key := "data_" ++ toString keyIdx
            let newValue := saturatingAdd (state[key]?.getD 0) delta
            some (state.insert key newValue, ⟨[key], [key], 2000, true, none⟩)
      | 3 => some (state, ⟨[], [], 1000, true, none⟩)
      | _ => some (state, ⟨[], [], 500, false, some "invalid opcode"⟩)

def batchLoop (hashBytes : HashBytes) (mode : OverflowMode) :
    State → UInt64 → List String → List SerializableTransaction →
      Option (State × UInt64 × List String)
  | state, totalCompute, entryHashes, [] => some (state, totalCompute, entryHashes)
  | state, totalCompute, entryHashes, tx :: rest => do
      let (next, result) ← executeInstruction mode state tx.sender tx.instructionData
      let totalCompute ← addU64 mode totalCompute result.compute
      let entryHash := hashTraceEntry hashBytes tx.txId result.success result.compute
        result.reads result.writes
      batchLoop hashBytes mode next totalCompute (entryHashes ++ [entryHash]) rest

structure BatchResult where
  stateRootPre : String
  stateRootPost : String
  totalCompute : UInt64
  entryHashes : List String
  deriving DecidableEq, Repr

def executeBatch (hashBytes : HashBytes) (mode : OverflowMode) (initialState : State)
    (transactions : List SerializableTransaction) : Option BatchResult := do
  let stateRootPre ← computeStateRoot hashBytes initialState
  let (state, totalCompute, entryHashes) ←
    batchLoop hashBytes mode initialState 0 [] transactions
  let stateRootPost ← computeStateRoot hashBytes state
  let _traceHash ← merkleRoot hashBytes entryHashes
  some { stateRootPre, stateRootPost, totalCompute, entryHashes }

def main (hashBytes : HashBytes) (mode : OverflowMode) (stdin : Stdin) : Option PublicInputs := do
  let recomputed ← executeBatch hashBytes mode stdin.initialState stdin.transactions
  let recomputedTraceHash ← merkleRoot hashBytes recomputed.entryHashes
  guard (recomputed.stateRootPre = stdin.trace.stateRootPre)
  guard (recomputed.stateRootPost = stdin.trace.stateRootPost)
  guard (recomputedTraceHash = stdin.trace.traceHash)
  guard (recomputed.totalCompute = stdin.trace.totalCompute)
  guard (stdin.transactions.length = stdin.trace.txCount)
  some {
    batchId := stdin.trace.batchId
    stateRootPre := recomputed.stateRootPre
    stateRootPost := recomputed.stateRootPost
    traceHash := recomputedTraceHash
    totalCompute := recomputed.totalCompute
    txCount := stdin.transactions.length }

/-- How the guest reports an outcome of the ledger. The host reports the two
kinds of refusal that cost compute here without any compute and without reads. -/
def guestReport (sender : String) : Instruction → Outcome → InstructionResult
  | _, .applied reads writes compute => ⟨reads, writes, compute, true, none⟩
  | _, .overdrawn _ _ => ⟨[sender], [], 5000, false, some "insufficient balance"⟩
  | .unknown _, .refused => ⟨[], [], 500, false, some "invalid opcode"⟩
  | .truncated opcode, .refused =>
      ⟨[], [], 0, false, some (if opcode = 0 then "invalid transfer data"
        else if opcode = 1 then "invalid setdata" else "invalid increment")⟩
  | _, .refused => ⟨[], [], 0, false, some "empty instruction"⟩

theorem execute_instruction_refines (mode : OverflowMode) (state : State) (sender : String)
    (data : List UInt8) :
    executeInstruction mode state sender data =
      (perform mode state sender (decode data)).map fun result =>
        (result.1, guestReport sender (decode data) result.2) := by
  have shape := decode_spec data
  generalize decode data = instruction at shape ⊢
  cases shape with
  | empty => rfl
  | @unknown opcode operands large =>
      have above : 3 < opcode.toNat := large
      rw [executeInstruction]
      split <;> first | omega | rfl
  | noop => rfl
  | truncated known short =>
      rcases known with rfl | rfl | rfl
      · change (if _ then _ else _) = _
        rw [if_pos short]
        rfl
      · change (if _ then _ else _) = _
        rw [if_pos short]
        rfl
      · change (if _ then _ else _) = _
        rw [if_pos short]
        rfl
  | @transfer operands long =>
      change (if operands.length < 16 then _ else
        if balanceOf state sender < firstOperand operands then _ else _) = _
      rw [if_neg long, perform]
      by_cases overdrawn : balanceOf state sender < firstOperand operands
      · rw [if_pos overdrawn, if_pos overdrawn]
        rfl
      · rw [if_neg overdrawn, if_neg overdrawn]
        simp only [bind, Option.map_bind, Function.comp_def, Option.map_some]
        rfl
  | @setData operands long =>
      change (if operands.length < 16 then _ else _) = _
      rw [if_neg long]
      rfl
  | @increment operands long =>
      change (if operands.length < 16 then _ else _) = _
      rw [if_neg long]
      rfl

theorem merkle_root_eq (hashBytes : HashBytes) (leaves : List String) :
    merkleRoot hashBytes leaves = some (CommonMerkle.merkleRoot hashBytes leaves) := by
  unfold merkleRoot CommonMerkle.merkleRoot
  split_ifs with empty one
  · rfl
  · rcases List.length_eq_one_iff.mp one with ⟨leaf, rfl⟩
    rfl
  · have nonempty : leaves ≠ [] := by simpa using empty
    rcases List.length_eq_one_iff.mp (level_loop_length (hashStr hashBytes) concat leaves.length
      leaves nonempty le_rfl) with ⟨top, single⟩
    rw [single]
    rfl

theorem compute_state_root_eq (hashBytes : HashBytes) (state : State) :
    computeStateRoot hashBytes state = some (TraceBuilding.computeStateRoot hashBytes state) := by
  unfold computeStateRoot TraceBuilding.computeStateRoot
  split_ifs
  · rfl
  · exact merkle_root_eq hashBytes _

def reports (transactions : List SerializableTransaction) (outcomes : List Outcome) :
    List InstructionResult :=
  List.zipWith (fun tx outcome => guestReport tx.sender (decode tx.instructionData) outcome)
    transactions outcomes

theorem call_reports (transactions : List SerializableTransaction) (outcomes : List Outcome) :
    List.zipWith (fun call outcome => guestReport call.sender (decode call.instructionData) outcome)
      (transactions.map SerializableTransaction.call) outcomes = reports transactions outcomes := by
  rw [List.zipWith_map_left]
  rfl

def reportText (tx : SerializableTransaction) (report : InstructionResult) : String :=
  entryText tx.txId report.success report.compute report.reads report.writes

def reportTexts (transactions : List SerializableTransaction) (outcomes : List Outcome) :
    List String :=
  List.zipWith reportText transactions (reports transactions outcomes)

theorem batch_loop_eq (hashBytes : HashBytes) (mode : OverflowMode) (state : State)
    (totalCompute : UInt64) (entryHashes : List String)
    (transactions : List SerializableTransaction) :
    batchLoop hashBytes mode state totalCompute entryHashes transactions =
      (run mode state (transactions.map SerializableTransaction.call)).bind fun ran =>
        (accumulate mode totalCompute
          ((reports transactions ran.2).map InstructionResult.compute)).map fun total =>
            (ran.1, total,
              entryHashes ++ (reportTexts transactions ran.2).map (hashStr hashBytes)) := by
  induction transactions generalizing state totalCompute entryHashes with
  | nil => simp [batchLoop, run, runSteps, reports, reportTexts, accumulate]
  | cons tx rest ih =>
      rw [batchLoop, execute_instruction_refines, List.map_cons, run, runSteps]
      change _ = Option.bind (Option.bind (perform mode state tx.sender (decode tx.instructionData))
        _) _
      cases performed : perform mode state tx.sender (decode tx.instructionData) with
      | none => rfl
      | some stepped =>
          rcases stepped with ⟨next, outcome⟩
          simp only [Option.map_some, bind, Option.bind_some]
          cases continued : runSteps (performCall mode) next
              (rest.map SerializableTransaction.call) with
          | none =>
              cases addU64 mode totalCompute
                  (guestReport tx.sender (decode tx.instructionData) outcome).compute with
              | none => rfl
              | some total => simp [ih, run, continued]
          | some ran =>
              rcases ran with ⟨final, outcomes⟩
              simp only [Option.bind_some, reports, reportTexts, List.zipWith_cons_cons,
                List.map_cons, accumulate_cons]
              cases added : addU64 mode totalCompute
                  (guestReport tx.sender (decode tx.instructionData) outcome).compute with
              | none => rfl
              | some total =>
                  simp [ih, run, continued, reports, reportTexts, hashTraceEntry, reportText]

theorem execute_batch_some (hashBytes : HashBytes) (mode : OverflowMode) (state final : State)
    (transactions : List SerializableTransaction) (outcomes : List Outcome) (total : UInt64)
    (ran : run mode state (transactions.map SerializableTransaction.call) = some (final, outcomes))
    (accumulated : accumulate mode 0
      ((reports transactions outcomes).map InstructionResult.compute) = some total) :
    executeBatch hashBytes mode state transactions = some {
      stateRootPre := TraceBuilding.computeStateRoot hashBytes state
      stateRootPost := TraceBuilding.computeStateRoot hashBytes final
      totalCompute := total
      entryHashes := (reportTexts transactions outcomes).map (hashStr hashBytes) } := by
  simp only [executeBatch, merkle_root_eq, compute_state_root_eq, batch_loop_eq, ran, accumulated,
    bind, Option.bind_some, Option.map_some, List.nil_append]

/-- Everything a run of `main` that commits can be: a ledger run from the given
state whose recomputed facts are the claimed ones. -/
theorem main_commits_iff (hashBytes : HashBytes) (mode : OverflowMode) (stdin : Stdin)
    (committed : PublicInputs) :
    main hashBytes mode stdin = some committed ↔
      ∃ final outcomes total,
        run mode stdin.initialState (stdin.transactions.map SerializableTransaction.call) =
          some (final, outcomes) ∧
        accumulate mode 0 ((reports stdin.transactions outcomes).map InstructionResult.compute) =
          some total ∧
        TraceBuilding.computeStateRoot hashBytes stdin.initialState = stdin.trace.stateRootPre ∧
        TraceBuilding.computeStateRoot hashBytes final = stdin.trace.stateRootPost ∧
        CommonMerkle.merkleRoot hashBytes
          ((reportTexts stdin.transactions outcomes).map (hashStr hashBytes)) =
            stdin.trace.traceHash ∧
        total = stdin.trace.totalCompute ∧
        stdin.transactions.length = stdin.trace.txCount ∧
        committed = stdin.trace.claimed := by
  simp only [main, executeBatch, merkle_root_eq, compute_state_root_eq, batch_loop_eq, bind,
    Option.bind_some, List.nil_append, Option.bind_eq_some_iff, Option.map_eq_some_iff,
    Option.some.injEq, Option.guard_eq_some']
  constructor
  · intro accepted
    rcases accepted with ⟨result, ⟨looped, ⟨ran, ranEq, total, totalEq, loopedEq⟩, resultEq⟩,
      _, pre, _, post, _, hash, _, compute, _, count, committedEq⟩
    subst loopedEq
    subst resultEq
    refine ⟨ran.1, ran.2, total, ranEq, totalEq, pre, post, hash, compute, count, ?_⟩
    rw [← committedEq, ExecutionTraceInput.claimed, ← pre, ← post, ← hash, ← compute, ← count]
  · intro facts
    rcases facts with
      ⟨final, outcomes, total, ranEq, totalEq, pre, post, hash, compute, count, committedEq⟩
    refine ⟨_, ⟨_, ⟨(final, outcomes), ranEq, total, totalEq, rfl⟩, rfl⟩, (), pre, (), post, (),
      hash, (), compute, (), count, ?_⟩
    rw [committedEq, ExecutionTraceInput.claimed, ← pre, ← post, ← hash, ← compute, ← count]

end CatalystSvm.GuestProgram
