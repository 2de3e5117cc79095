import CatalystSvm.IssuedIds
import CatalystSvm.BatchPolicy
import CatalystSvm.ExecutionEngine

/-!
# The validator node

`examples/validator/src/main.rs` as a transition system. Submissions and seals
run inside the write lock and are one action each. Every seal leaves behind a
`process_batch` call, which moves from one await point to the next in any
interleaving with the others and may end in an error at each of them. The 100 ms
tick and `forceSeal` take the same action, so any number of sealers is covered.
-/

namespace CatalystSvm.ValidatorNode

open CatalystSvm.CommonTypes CatalystSvm.CommonMerkle CatalystSvm.MachineArithmetic
open CatalystSvm.BatchPolicy CatalystSvm.ExecutionEngine CatalystSvm.IssuedIds

set_option autoImplicit false

structure SubmitTxParams where
  sender : String
  programId : String
  instructionData : List UInt8
  priority : Option String
  deriving DecidableEq, Repr

structure ProofRecord where
  batchId : String
  proofHash : String
  stateRootPre : String
  stateRootPost : String
  txCount : Nat
  provingTimeMs : UInt64
  proofSizeBytes : Nat
  timestamp : UInt64
  deriving DecidableEq, Repr

structure ValidatorState where
  pendingTxs : List Transaction
  proofs : List ProofRecord
  txCounter : UInt64
  batchCounter : UInt64

def ValidatorState.default : ValidatorState where
  pendingTxs := []
  proofs := []
  txCounter := 0
  batchCounter := 0

structure Validator (Policy : Type) where
  policy : Policy
  executor : FullExecutor
  batchSize : Nat
  hashBytes : HashBytes
  mode : OverflowMode

inductive PolicyType where
  | fixed
  | time
  | hybrid
  | adaptive
  deriving DecidableEq, Repr

structure Args where
  policy : PolicyType
  batchSize : Nat
  batchTimeoutMs : UInt64
  deriving DecidableEq, Repr

def Args.default : Args where
  policy := .hybrid
  batchSize := 10
  batchTimeoutMs := 5000

def Args.policyEngine (args : Args) : DynPolicy :=
  match args.policy with
  | .fixed => .fixedCount { threshold := args.batchSize }
  | .time => .fixedTime { intervalMs := args.batchTimeoutMs }
  | .hybrid =>
      .hybrid { countThreshold := args.batchSize
                timeThresholdMs := args.batchTimeoutMs }
  | .adaptive => .adaptive (.new args.batchSize 200 args.batchTimeoutMs 100)

def Validator.new (hashBytes : HashBytes) (mode : OverflowMode) (args : Args) :
    Validator DynPolicy where
  policy := args.policyEngine
  executor := .new 200000
  batchSize := args.batchSize
  hashBytes := hashBytes
  mode := mode

def parsePriority : Option String → TransactionPriority
  | some "low" => .low
  | some "high" => .high
  | some "critical" => .critical
  | _ => .normal

def submittedTransaction (counter : UInt64) (params : SubmitTxParams) (now : UInt64) :
    Transaction :=
  { Transaction.new ⟨formatTxId counter⟩ params.sender params.programId with
    instructionData := params.instructionData
    priority := parsePriority params.priority
    arrivalTs := now }

section Operations

variable {Policy : Type} [PolicyEngine Policy] (validator : Validator Policy)

/-- The state and the queued transaction; `none` when the counter panics. -/
def submitTransaction (params : SubmitTxParams) (now : UInt64) (state : ValidatorState) :
    Option (ValidatorState × Transaction) := do
  let counter ← addU64 validator.mode state.txCounter 1
  let tx := submittedTransaction counter params now
  some ({ state with txCounter := counter, pendingTxs := state.pendingTxs ++ [tx] }, tx)

/-- The locked part of `check_and_seal_batch`: the state with the batch drained.
The `Batch` that the source builds here is dropped with the lock. -/
def checkAndSealBatch (now : UInt64) (state : ValidatorState) :
    Option (ValidatorState × String × List Transaction) :=
  match state.pendingTxs with
  | [] => none
  | oldest :: _ =>
      let queueLen := state.pendingTxs.length
      let oldestWaitMs := saturatingSub now oldest.arrivalTs
      if PolicyEngine.shouldSeal validator.policy queueLen oldestWaitMs 0.0 then do
        let counter ← addU64 validator.mode state.batchCounter 1
        let count := min queueLen validator.batchSize
        some ({ state with
            batchCounter := counter
            pendingTxs := state.pendingTxs.drop count },
          formatBatchId counter, state.pendingTxs.take count)
      else none

end Operations

inductive ProveOutcome where
  | returned (result : Except ProveError Proof)
  | panicked (joinError : String)

/-- The await points of `process_batch` and `save_proof`. -/
inductive Stage where
  | sealed
  | executed (trace : ExecutionTrace)
  | proved (trace : ExecutionTrace) (proof : Proof) (timestamp : UInt64)
  | proofWritten (trace : ExecutionTrace) (proof : Proof) (timestamp : UInt64)
  | saved (proof : Proof) (timestamp : UInt64)
  | recorded
  | failed (reason : String)
  | panicked

/-- The call still holds its transactions and may yet record them. -/
def Stage.inProgress : Stage → Bool
  | .recorded | .failed _ | .panicked => false
  | _ => true

structure Task where
  batchId : String
  transactions : List Transaction
  stage : Stage

/-- The calls stay in the list, in the order in which they sealed; `submitted` is
the history of the accepted transactions. -/
structure System where
  state : ValidatorState
  tasks : List Task
  submitted : List Transaction

def System.init : System where
  state := .default
  tasks := []
  submitted := []

inductive Event where
  | execute (startTs sealTs : UInt64)
  | prove (outcome : ProveOutcome) (timestamp : UInt64)
  /-- A part of the file being written becomes visible. -/
  | tear (count : Nat)
  | write (outcome : Except String Unit)
  | record

inductive Action where
  | submit (params : SubmitTxParams) (now : UInt64)
  | checkAndSeal (now : UInt64)
  | advance (task : Nat) (event : Event)

def processedBatch (task : Task) (startTs sealTs : UInt64) : Batch :=
  { Batch.new task.batchId startTs with
    txIds := task.transactions.map Transaction.txId
    sealTs := sealTs
    status := .sealed }

def proofRecord (batchId : String) (proof : Proof) (timestamp : UInt64) : ProofRecord where
  batchId := batchId
  proofHash := proof.proofHash
  stateRootPre := proof.commitment.stateRootPre
  stateRootPost := proof.commitment.stateRootPost
  txCount := proof.commitment.txCount
  provingTimeMs := proof.provingTimeMs
  proofSizeBytes := proof.proofSizeBytes
  timestamp := timestamp

section Transitions

variable {Policy : Type} [PolicyEngine Policy] (validator : Validator Policy)

def nextStage (task : Task) : Event → Stage
  | .execute startTs sealTs =>
      match task.stage with
      | .sealed =>
          match validator.executor.executeWithTransactions validator.hashBytes validator.mode
              (processedBatch task startTs sealTs) task.transactions with
          | some trace => .executed trace
          | none => .panicked
      | stage => stage
  | .prove outcome timestamp =>
      match task.stage, outcome with
      | .executed trace, .returned (.ok proof) => .proved trace proof timestamp
      | .executed _, .returned (.error error) => .failed ("Proving failed: " ++ error.text)
      | .executed _, .panicked joinError => .failed ("Proving task failed: " ++ joinError)
      | stage, _ => stage
  | .write outcome =>
      match task.stage, outcome with
      | .proved trace proof timestamp, .ok () => .proofWritten trace proof timestamp
      | .proofWritten _ proof timestamp, .ok () => .saved proof timestamp
      | .proved .., .error reason => .failed reason
      | .proofWritten .., .error reason => .failed reason
      | stage, _ => stage
  | .tear _ => task.stage
  | .record => task.stage

def System.setStage (system : System) (index : Nat) (task : Task) (stage : Stage) : System :=
  { system with tasks := system.tasks.set index { task with stage := stage } }

def System.advance (system : System) (index : Nat) (task : Task) (event : Event) : System :=
  match event, task.stage with
  | .record, .saved proof timestamp =>
      { system.setStage index task .recorded with
        state := { system.state with
          proofs := system.state.proofs ++ [proofRecord task.batchId proof timestamp] } }
  | event, _ => system.setStage index task (nextStage validator task event)

/-- One action. What cannot happen in a state leaves it unchanged. -/
def step (system : System) : Action → System
  | .submit params now =>
      match submitTransaction validator params now system.state with
      | none => system
      | some (state, tx) => { system with state := state, submitted := system.submitted ++ [tx] }
  | .checkAndSeal now =>
      match checkAndSealBatch validator now system.state with
      | none => system
      | some (state, batchId, transactions) =>
          { system with
            state := state
            tasks := system.tasks ++
              [{ batchId := batchId, transactions := transactions, stage := .sealed }] }
  | .advance index event =>
      match system.tasks[index]? with
      | none => system
      | some task => system.advance validator index task event

end Transitions

end CatalystSvm.ValidatorNode
