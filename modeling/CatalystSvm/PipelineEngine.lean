import CatalystSvm.IssuedIds
import CatalystSvm.CommonMetrics
import CatalystSvm.ExecutionEngine

/-!
# The pipeline engine

Transcription of `crates/benchmark-cli/src/engine.rs`: ingest, batch, execute,
prove, verify. The methods take `&mut self` and may return early, so each returns
its result together with the engine as it was left; `none` is a panic. The clock
and everything the prover and the verifier depend on are one world, which they
move as they like.
-/

namespace CatalystSvm.PipelineEngine

open CatalystSvm.CommonTypes CatalystSvm.CommonMerkle CatalystSvm.MachineArithmetic
open CatalystSvm.BatchPolicy CatalystSvm.CommonMetrics CatalystSvm.IssuedIds
open CatalystSvm.ExecutionEngine

set_option autoImplicit false

/-- A batch that went through the whole pipeline, as it was when it was recorded. -/
structure RecordedBatch where
  batch : Batch
  transactions : List Transaction
  trace : ExecutionTrace
  verifiedAt : UInt64
  metrics : BatchMetrics

structure Engine (Policy : Type) where
  policy : Policy
  executor : FullExecutor
  queue : List Transaction
  priorityLane : List Transaction
  batchCounter : UInt64
  oldestArrival : UInt64
  lastSealTime : UInt64
  metrics : MetricsAggregator
  /-- History only: the batches behind the metrics. -/
  recorded : List RecordedBatch

def Engine.new {Policy : Type} (policy : Policy) (executor : FullExecutor) : Engine Policy where
  policy := policy
  executor := executor
  queue := []
  priorityLane := []
  batchCounter := 0
  oldestArrival := 0
  lastSealTime := 0
  metrics := .new
  recorded := []

structure Setup (World : Type) where
  hashBytes : HashBytes
  mode : OverflowMode
  prove : ExecutionTrace → List Transaction → World → Except ProveError Proof × World
  verify : Proof → ExecutionTrace → World → Except VerifyError VerificationResult × World

structure Machine (Policy World : Type) where
  engine : Engine Policy
  world : World

abbrev Outcome (Policy World : Type) := Except ExecError Unit × Machine Policy World

def fastLane (tx : Transaction) : Bool :=
  match tx.priority with
  | .low | .normal => false
  | .high | .critical => true

section Methods

variable {Policy World : Type} [PolicyEngine Policy] [Clock World] (setup : Setup World)

def Engine.pending (engine : Engine Policy) : List Transaction :=
  engine.priorityLane ++ engine.queue

def sealedBatch (batchId : String) (now : UInt64) (transactions : List Transaction) : Batch :=
  { Batch.new batchId now with
    txIds := transactions.map Transaction.txId
    sealTs := now
    reasonSealed := .adaptive }

def batchMetrics (policy : Policy) (batch : Batch) (transactions : List Transaction)
    (trace : ExecutionTrace) (proof : Proof) (verification : VerificationResult)
    (batchEnd : UInt64) : BatchMetrics :=
  let batchSize := transactions.length
  let endToEnd := saturatingSub batchEnd batch.startTs
  { batchId := batch.batchId
    policyName := PolicyEngine.name policy
    batchSize := batchSize
    totalComputeUsed := trace.totalCompute
    executionTimeMs := trace.totalCompute / 1000
    provingTimeMs := proof.provingTimeMs
    verificationTimeMs := verification.verificationTimeMs
    endToEndLatencyMs := endToEnd
    proofSizeBytes := UInt64.ofNat proof.proofSizeBytes
    throughputTps :=
      if endToEnd > 0 then usizeAsF64 batchSize / (endToEnd.toFloat / 1000.0)
      else usizeAsF64 batchSize * 1000.0
    avgTxLatencyMs := endToEnd.toFloat / usizeAsF64 batchSize
    verificationPassed := verification.isValid }

/-- The end of `seal_and_process`. The next oldest arrival is only set when
something is queued. -/
def Engine.finishBatch (engine : Engine Policy) (entry : RecordedBatch) : Engine Policy :=
  let engine :=
    { engine with
      metrics := engine.metrics.record entry.metrics
      recorded := engine.recorded ++ [entry]
      lastSealTime := entry.verifiedAt }
  match engine.queue.head?.or engine.priorityLane.head? with
  | some next => { engine with oldestArrival := next.arrivalTs }
  | none => engine

/-- Prove and verify an executed batch, then record it. -/
def proveAndVerify (engine : Engine Policy) (batch : Batch) (transactions : List Transaction)
    (trace : ExecutionTrace) (world : World) : Outcome Policy World :=
  match setup.prove trace transactions world with
  | (.error error, world) =>
      (.error (.batchFailed ("prove failed: " ++ error.text)), ⟨engine, world⟩)
  | (.ok proof, world) =>
      match setup.verify proof trace world with
      | (.error error, world) =>
          (.error (.batchFailed ("verify failed: " ++ error.text)), ⟨engine, world⟩)
      | (.ok verification, world) =>
          let (batchEnd, world) := Clock.nowMs world
          let entry : RecordedBatch :=
            { batch := batch
              transactions := transactions
              trace := trace
              verifiedAt := batchEnd
              metrics := batchMetrics engine.policy batch transactions trace proof verification
                batchEnd }
          (.ok (), ⟨engine.finishBatch entry, world⟩)

def sealAndProcess (machine : Machine Policy World) : Option (Outcome Policy World) :=
  let (now, world) := Clock.nowMs machine.world
  let transactions := machine.engine.priorityLane ++ machine.engine.queue
  let engine := { machine.engine with priorityLane := [], queue := [] }
  if transactions.isEmpty then some (.ok (), ⟨engine, world⟩)
  else do
    let counter ← addU64 setup.mode engine.batchCounter 1
    let engine := { engine with batchCounter := counter }
    let batch := sealedBatch (formatBatchId counter) now transactions
    let trace ← engine.executor.executeWithTransactions setup.hashBytes setup.mode batch
      transactions
    some (proveAndVerify setup engine batch transactions trace world)

def arrivalRate (total : Nat) (now lastSealTime : UInt64) : Float :=
  let timeSinceLast := max (saturatingSub now lastSealTime) 1
  usizeAsF64 total / (timeSinceLast.toFloat / 1000.0)

def trySeal (machine : Machine Policy World) : Option (Outcome Policy World) :=
  let engine := machine.engine
  let total := engine.queue.length + engine.priorityLane.length
  if total = 0 then some (.ok (), machine)
  else
    let (now, world) := Clock.nowMs machine.world
    let oldestWait := saturatingSub now engine.oldestArrival
    if PolicyEngine.shouldSeal engine.policy total oldestWait
        (arrivalRate total now engine.lastSealTime) then
      sealAndProcess setup ⟨engine, world⟩
    else some (.ok (), ⟨engine, world⟩)

/-- The part of `ingest` before `try_seal`. -/
def enqueue (tx : Transaction) (machine : Machine Policy World) : Machine Policy World :=
  let engine := machine.engine
  let oldestArrival :=
    if engine.queue.isEmpty && engine.priorityLane.isEmpty then tx.arrivalTs
    else engine.oldestArrival
  let (current, world) := Clock.nowMs machine.world
  let world := if tx.arrivalTs > current then Clock.advance world (tx.arrivalTs - current) else world
  let engine := { engine with oldestArrival := oldestArrival }
  if fastLane tx then
    ⟨{ engine with priorityLane := engine.priorityLane ++ [tx] }, world⟩
  else ⟨{ engine with queue := engine.queue ++ [tx] }, world⟩

def ingest (tx : Transaction) (machine : Machine Policy World) : Option (Outcome Policy World) :=
  trySeal setup (enqueue tx machine)

/-- The `while` loop of `flush`, up to `fuel` rounds; the outer `none` is a loop that
is still running. -/
def flush : Nat → Machine Policy World → Option (Option (Outcome Policy World))
  | 0, _ => none
  | fuel + 1, machine =>
      if machine.engine.queue.isEmpty && machine.engine.priorityLane.isEmpty then
        some (some (.ok (), machine))
      else
        match sealAndProcess setup machine with
        | none => some none
        | some (.error error, machine) => some (some (.error error, machine))
        | some (.ok (), machine) => flush fuel machine

end Methods

end CatalystSvm.PipelineEngine
