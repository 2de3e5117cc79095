import CatalystSvm.ExecutionEngine
import CatalystSvm.GuestProgram

/-!
# What the prover feeds to the guest

Transcription of `crates/sp1-prover/src/lib.rs`. The SP1 prover itself (setup,
proving and the bincode serialisation of its proof) is a parameter that turns
the guest's standard input into proof bytes.
-/

namespace CatalystSvm.ProverInputs

open CatalystSvm.CommonTypes CatalystSvm.CommonMerkle CatalystSvm.ExecutionEngine
open CatalystSvm.GuestProgram (SerializableTransaction ExecutionTraceInput Stdin)
open CatalystSvm.LedgerMachine (Call)

set_option autoImplicit false

def traceInput (trace : ExecutionTrace) : ExecutionTraceInput where
  batchId := trace.batchId
  stateRootPre := trace.stateRootPre
  stateRootPost := trace.stateRootPost
  traceHash := trace.traceHash
  totalCompute := trace.totalCompute
  txCount := trace.entries.length

def serializableTransaction (tx : Transaction) : SerializableTransaction where
  txId := tx.txId.asStr
  sender := tx.sender
  instructionData := tx.instructionData

/-- The three `stdin.write` calls of `execute_only` and `prove_with_transactions`. -/
def guestStdin (trace : ExecutionTrace) (transactions : List Transaction)
    (initialState : State) : Stdin where
  trace := traceInput trace
  transactions := transactions.map serializableTransaction
  initialState := initialState

/-- The initial state `prove` gives to real transactions. -/
def proverInitialState (transactions : List Transaction) : State :=
  initialBalances (transactions.map Transaction.sender)

def fallbackSender (entry : TraceEntry) : String := "sender_" ++ entry.txId.asStr

def reconstructedTransaction (entry : TraceEntry) : Transaction :=
  { Transaction.new entry.txId (fallbackSender entry) "execute" with instructionData := [3] }

/-- The transactions and initial state that `prove` hands on: the given ones, or
`Noop`s reconstructed from the trace when the slice is empty. -/
def proveArguments (trace : ExecutionTrace) (transactions : List Transaction) :
    List Transaction × State :=
  if transactions.isEmpty then
    (trace.entries.map reconstructedTransaction,
      initialBalances (trace.entries.map fallbackSender))
  else (transactions, proverInitialState transactions)

def proveStdin (trace : ExecutionTrace) (transactions : List Transaction) : Stdin :=
  guestStdin trace (proveArguments trace transactions).1 (proveArguments trace transactions).2

def proveWithTransactions (hashBytes : HashBytes) (sp1Prove : Stdin → Except String (List UInt8))
    (provingTimeMs generatedAt : UInt64) (trace : ExecutionTrace)
    (transactions : List Transaction) (initialState : State) : Except ProveError Proof :=
  if trace.entries.isEmpty then .error (.invalidTrace "empty trace")
  else
    match sp1Prove (guestStdin trace transactions initialState) with
    | .error reason => .error (.internal reason)
    | .ok proofBytes => .ok {
        batchId := trace.batchId
        proofData := proofBytes
        proofHash := hashBytes proofBytes
        commitment := {
          batchHash := hashStr hashBytes trace.batchId
          traceHash := trace.traceHash
          stateRootPre := trace.stateRootPre
          stateRootPost := trace.stateRootPost
          totalCompute := trace.totalCompute
          txCount := trace.entries.length }
        generatedAt := generatedAt
        provingTimeMs := provingTimeMs
        proofSizeBytes := proofBytes.length }

def prove (hashBytes : HashBytes) (sp1Prove : Stdin → Except String (List UInt8))
    (provingTimeMs generatedAt : UInt64) (trace : ExecutionTrace)
    (transactions : List Transaction) : Except ProveError Proof :=
  proveWithTransactions hashBytes sp1Prove provingTimeMs generatedAt trace
    (proveArguments trace transactions).1 (proveArguments trace transactions).2

def transactionCall (tx : Transaction) : Call where
  sender := tx.sender
  instructionData := tx.instructionData

theorem serialized_calls (transactions : List Transaction) :
    (transactions.map serializableTransaction).map SerializableTransaction.call =
      transactions.map transactionCall := by
  rw [List.map_map]
  rfl

theorem submitted_calls (transactions : List Transaction) :
    (transactions.map submissionOf).map Submission.call = transactions.map transactionCall := by
  rw [List.map_map]
  rfl

theorem submitted_senders (transactions : List Transaction) :
    (transactions.map submissionOf).map Submission.sender =
      transactions.map Transaction.sender := by
  rw [List.map_map]
  rfl

theorem prove_stdin_of_nonempty (trace : ExecutionTrace) (transactions : List Transaction)
    (nonempty : transactions ≠ []) :
    proveStdin trace transactions =
      guestStdin trace transactions (proverInitialState transactions) := by
  have notEmpty : transactions.isEmpty = false := by simpa using nonempty
  simp [proveStdin, proveArguments, notEmpty]

end CatalystSvm.ProverInputs
