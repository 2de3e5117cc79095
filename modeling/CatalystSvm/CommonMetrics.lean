import Mathlib.Algebra.BigOperators.Group.List.Basic
import CatalystSvm.BatchPolicy
import CatalystSvm.MachineArithmetic

/-!
# Clocks and metrics

Transcription of `crates/common/src/clock.rs` and `crates/common/src/metrics.rs`.
A clock is part of a world that other components may move too: reading it may
change the world (a system clock is a stream of readings), and only a virtual
clock reacts to `advance`. The sums on `u64` follow the overflow reading and the
statistics on `f64` are Lean's own.
-/

namespace CatalystSvm.CommonMetrics

open CatalystSvm.MachineArithmetic CatalystSvm.BatchPolicy

set_option autoImplicit false

class Clock (World : Type) where
  nowMs : World → UInt64 × World
  advance : World → UInt64 → World

structure VirtualClock where
  currentMs : UInt64
  deriving DecidableEq, Repr

/-- `fetch_add` wraps under both overflow readings. -/
instance : Clock VirtualClock where
  nowMs clock := (clock.currentMs, clock)
  advance clock ms := { currentMs := clock.currentMs + ms }

/-- The wall clock: the readings still to come. -/
structure SystemClock where
  readings : Nat → UInt64

instance : Clock SystemClock where
  nowMs clock := (clock.readings 0, { readings := fun index => clock.readings (index + 1) })
  advance clock _ := clock

/-- A clock together with whatever else the prover and the verifier depend on. -/
instance {Time Outside : Type} [Clock Time] : Clock (Time × Outside) where
  nowMs world := ((Clock.nowMs world.1).1, (Clock.nowMs world.1).2, world.2)
  advance world ms := (Clock.advance world.1 ms, world.2)

structure BatchMetrics where
  batchId : String
  policyName : String
  batchSize : Nat
  totalComputeUsed : UInt64
  executionTimeMs : UInt64
  provingTimeMs : UInt64
  verificationTimeMs : UInt64
  endToEndLatencyMs : UInt64
  proofSizeBytes : UInt64
  throughputTps : Float
  avgTxLatencyMs : Float
  verificationPassed : Bool

structure SystemMetrics where
  policyName : String
  scenarioName : String
  totalTransactions : Nat
  totalBatches : Nat
  avgBatchSize : Float
  avgLatencyMs : Float
  p50LatencyMs : Float
  p95LatencyMs : Float
  p99LatencyMs : Float
  avgThroughputTps : Float
  totalProofSizeBytes : UInt64
  avgProofSizeBytes : Float
  verificationSuccessRate : Float
  totalComputeUsed : UInt64
  amortizedCostPerTx : Float
  batchEfficiency : Float
  slaViolations : Nat

/-- `SystemMetrics::default` with the two names filled in. -/
def SystemMetrics.empty (policyName scenarioName : String) : SystemMetrics where
  policyName := policyName
  scenarioName := scenarioName
  totalTransactions := 0
  totalBatches := 0
  avgBatchSize := 0.0
  avgLatencyMs := 0.0
  p50LatencyMs := 0.0
  p95LatencyMs := 0.0
  p99LatencyMs := 0.0
  avgThroughputTps := 0.0
  totalProofSizeBytes := 0
  avgProofSizeBytes := 0.0
  verificationSuccessRate := 0.0
  totalComputeUsed := 0
  amortizedCostPerTx := 0.0
  batchEfficiency := 0.0
  slaViolations := 0

def percentile (sorted : List Float) (p : Float) : Float :=
  if sorted.isEmpty then 0.0
  else
    let idx := ((p / 100.0) * usizeAsF64 (sorted.length - 1)).round.toUInt64.toNat
    sorted.getD (min idx (sorted.length - 1)) 0.0

/-- `none` is an overflow panic, as everywhere. -/
def computeBatchEfficiency (mode : OverflowMode) (metrics : List BatchMetrics) : Option Float :=
  if metrics.isEmpty then some 0.0
  else do
    let totalExecution ← accumulate mode 0 (metrics.map BatchMetrics.executionTimeMs)
    let overheads ← metrics.mapM fun batch =>
      addU64 mode batch.provingTimeMs batch.verificationTimeMs
    let totalOverhead ← accumulate mode 0 overheads
    if totalOverhead = 0 then some 1.0
    else do
      let total ← addU64 mode totalExecution totalOverhead
      some (totalExecution.toFloat / total.toFloat)

def sumF64 (values : List Float) : Float :=
  values.foldl (· + ·) 0.0

/-- Batches whose reported latency exceeds the limit. -/
def countSlaViolations (metrics : List BatchMetrics) (slaLatencyMs : UInt64) : Nat :=
  metrics.countP fun batch => decide (slaLatencyMs < batch.endToEndLatencyMs)

def aggregateMetrics (mode : OverflowMode) (metrics : List BatchMetrics)
    (policyName scenarioName : String) (slaLatencyMs : UInt64) : Option SystemMetrics :=
  if metrics.isEmpty then some (.empty policyName scenarioName)
  else do
    let totalBatches := metrics.length
    let totalTransactions := (metrics.map BatchMetrics.batchSize).sum
    let latencies := (metrics.map fun batch => batch.endToEndLatencyMs.toFloat).mergeSort
      fun left right => !decide (right < left)
    let totalProofSizeBytes ← accumulate mode 0 (metrics.map BatchMetrics.proofSizeBytes)
    let throughputs := metrics.map BatchMetrics.throughputTps
    let verificationSuccesses := metrics.countP BatchMetrics.verificationPassed
    let totalComputeUsed ← accumulate mode 0 (metrics.map BatchMetrics.totalComputeUsed)
    let batchEfficiency ← computeBatchEfficiency mode metrics
    some {
      policyName := policyName
      scenarioName := scenarioName
      totalTransactions := totalTransactions
      totalBatches := totalBatches
      avgBatchSize := usizeAsF64 totalTransactions / usizeAsF64 totalBatches
      avgLatencyMs := sumF64 latencies / usizeAsF64 latencies.length
      p50LatencyMs := percentile latencies 50.0
      p95LatencyMs := percentile latencies 95.0
      p99LatencyMs := percentile latencies 99.0
      avgThroughputTps := sumF64 throughputs / usizeAsF64 throughputs.length
      totalProofSizeBytes := totalProofSizeBytes
      avgProofSizeBytes := totalProofSizeBytes.toFloat / usizeAsF64 totalBatches
      verificationSuccessRate := usizeAsF64 verificationSuccesses / usizeAsF64 totalBatches
      totalComputeUsed := totalComputeUsed
      amortizedCostPerTx :=
        if totalTransactions > 0 then
          totalProofSizeBytes.toFloat / usizeAsF64 totalTransactions
        else 0.0
      batchEfficiency := batchEfficiency
      slaViolations := countSlaViolations metrics slaLatencyMs }

theorem aggregate_sla_violations {mode : OverflowMode} {metrics : List BatchMetrics}
    {policyName scenarioName : String} {slaLatencyMs : UInt64} {system : SystemMetrics}
    (aggregated : aggregateMetrics mode metrics policyName scenarioName slaLatencyMs =
      some system) : system.slaViolations = countSlaViolations metrics slaLatencyMs := by
  unfold aggregateMetrics at aggregated
  split_ifs at aggregated with empty
  · cases aggregated
    rw [List.isEmpty_iff.mp empty]
    rfl
  · simp only [bind, Option.bind_eq_some_iff] at aggregated
    rcases aggregated with ⟨_, _, _, _, _, _, result⟩
    cases result
    rfl

/-- `MetricsAggregator`, which only collects. -/
structure MetricsAggregator where
  batchMetrics : List BatchMetrics

def MetricsAggregator.new : MetricsAggregator where
  batchMetrics := []

def MetricsAggregator.record (aggregator : MetricsAggregator) (metrics : BatchMetrics) :
    MetricsAggregator where
  batchMetrics := aggregator.batchMetrics ++ [metrics]

def MetricsAggregator.batchSizes (aggregator : MetricsAggregator) : List Nat :=
  aggregator.batchMetrics.map BatchMetrics.batchSize

def MetricsAggregator.transactionCount (aggregator : MetricsAggregator) : Nat :=
  aggregator.batchSizes.sum

def MetricsAggregator.finalize (mode : OverflowMode) (aggregator : MetricsAggregator)
    (policyName scenarioName : String) (slaLatencyMs : UInt64) : Option SystemMetrics :=
  aggregateMetrics mode aggregator.batchMetrics policyName scenarioName slaLatencyMs

end CatalystSvm.CommonMetrics
