import Mathlib.Data.List.Basic

/-!
# Shared data types of the batching pipeline

Transcription of `crates/common/src/types.rs` and of the error enumerations of
`crates/common/src/errors.rs` that the modelled stages raise. Lengths and
indices (`usize`) are natural numbers; `u64` fields keep their width.
-/

namespace CatalystSvm.CommonTypes

set_option autoImplicit false

structure TransactionId where
  asStr : String
  deriving DecidableEq, Repr

inductive TransactionPriority where
  | low
  | normal
  | high
  | critical
  deriving DecidableEq, Repr

structure Transaction where
  txId : TransactionId
  arrivalTs : UInt64
  sender : String
  programId : String
  accounts : List String
  instructionData : List UInt8
  priority : TransactionPriority
  estimatedCu : UInt64
  deadlineMs : Option UInt64
  deriving DecidableEq, Repr

/-- `Transaction::new`, with the Solana default compute estimate. -/
def Transaction.new (txId : TransactionId) (sender programId : String) : Transaction where
  txId := txId
  arrivalTs := 0
  sender := sender
  programId := programId
  accounts := []
  instructionData := []
  priority := .normal
  estimatedCu := 200000
  deadlineMs := none

inductive BatchStatus where
  | pending
  | sealed
  | executed
  | proofGenerated
  | verified
  | failed
  deriving DecidableEq, Repr

inductive SealReason where
  | countThreshold
  | timeThreshold
  | latencyBudget
  | priorityFastLane
  | manual
  | adaptive
  deriving DecidableEq, Repr

structure Batch where
  batchId : String
  txIds : List TransactionId
  startTs : UInt64
  sealTs : UInt64
  reasonSealed : SealReason
  batchHash : String
  traceHash : Option String
  proofHash : Option String
  status : BatchStatus
  totalCu : UInt64
  deriving DecidableEq, Repr

def Batch.new (batchId : String) (startTs : UInt64) : Batch where
  batchId := batchId
  txIds := []
  startTs := startTs
  sealTs := 0
  reasonSealed := .manual
  batchHash := ""
  traceHash := none
  proofHash := none
  status := .pending
  totalCu := 0

structure TraceEntry where
  txIdx : Nat
  txId : TransactionId
  preStateHash : String
  instruction : String
  accountsRead : List String
  accountsWritten : List String
  postStateHash : String
  computeUsed : UInt64
  success : Bool
  error : Option String
  deriving DecidableEq, Repr

structure ExecutionTrace where
  batchId : String
  entries : List TraceEntry
  stateRootPre : String
  stateRootPost : String
  traceHash : String
  totalCompute : UInt64
  successCount : Nat
  failureCount : Nat
  deriving DecidableEq, Repr

/-- The copy of the public facts that travels unauthenticated inside a `Proof`. -/
structure ProofCommitment where
  batchHash : String
  traceHash : String
  stateRootPre : String
  stateRootPost : String
  totalCompute : UInt64
  txCount : Nat
  deriving DecidableEq, Repr

structure Proof where
  batchId : String
  proofData : List UInt8
  proofHash : String
  commitment : ProofCommitment
  generatedAt : UInt64
  provingTimeMs : UInt64
  proofSizeBytes : Nat
  deriving DecidableEq, Repr

structure VerificationResult where
  batchId : String
  isValid : Bool
  verificationTimeMs : UInt64
  error : Option String
  deriving DecidableEq, Repr

inductive ExecError where
  | invalidOpcode (opcode : UInt8)
  | insufficientBalance (needed available : UInt64)
  | accountNotFound (account : String)
  | computeBudgetExceeded (used limit : UInt64)
  | batchFailed (reason : String)
  | stateCorruption (reason : String)
  deriving DecidableEq, Repr

/-- The `Display` text that ends up in `TraceEntry::error`. -/
def ExecError.text : ExecError → String
  | .invalidOpcode opcode => "invalid instruction opcode: " ++ toString opcode
  | .insufficientBalance needed available =>
      "insufficient balance for transfer: need " ++ toString needed ++ ", have " ++
        toString available
  | .accountNotFound account => "account not found: " ++ account
  | .computeBudgetExceeded used limit =>
      "compute budget exceeded: used " ++ toString used ++ ", limit " ++ toString limit
  | .batchFailed reason => "batch execution failed: " ++ reason
  | .stateCorruption reason => "state corruption detected: " ++ reason

inductive ProveError where
  | invalidTrace (reason : String)
  | commitmentFailed (reason : String)
  | serializationFailed (reason : String)
  | internal (reason : String)
  deriving DecidableEq, Repr

def ProveError.text : ProveError → String
  | .invalidTrace reason => "invalid trace: " ++ reason
  | .commitmentFailed reason => "commitment generation failed: " ++ reason
  | .serializationFailed reason => "proof serialization failed: " ++ reason
  | .internal reason => "prover internal error: " ++ reason

inductive VerifyError where
  | commitmentMismatch (expected actual : String)
  | invalidProofFormat (reason : String)
  | traceHashMismatch
  | stateRootMismatch (preMatch postMatch : Bool)
  | verificationFailed (reason : String)
  deriving DecidableEq, Repr

def VerifyError.text : VerifyError → String
  | .commitmentMismatch expected actual =>
      "commitment mismatch: expected " ++ expected ++ ", got " ++ actual
  | .invalidProofFormat reason => "invalid proof format: " ++ reason
  | .traceHashMismatch => "trace hash mismatch"
  | .stateRootMismatch preMatch postMatch =>
      "state root mismatch: pre=" ++ toString preMatch ++ ", post=" ++ toString postMatch
  | .verificationFailed reason => "verification failed: " ++ reason

end CatalystSvm.CommonTypes
