import Mathlib.Data.Rat.Floor
import CatalystSvm.BatchPolicy
import CatalystSvm.CommonTypes
import CatalystSvm.LedgerMachine
import CatalystSvm.Library.PaddedNumerals

/-!
# Validation and the workload generator

Transcription of `crates/ingress/src/lib.rs`. The random number generator is a
source of draws that is threaded through every call; a draw from a range carries
the proof that it lies inside. `none` is an overflow panic, and a finished
generator answers `some none`. The phases of the last scenario are compared on
`f64`, and nothing below depends on the outcome.
-/

namespace CatalystSvm.Ingress

open CatalystSvm.MachineArithmetic CatalystSvm.CommonTypes
open CatalystSvm.BatchPolicy CatalystSvm.LedgerMachine CatalystSvm.Library.PaddedNumerals

set_option autoImplicit false

inductive IngressError where
  | invalidFormat (reason : String)
  | invalidSender (reason : String)
  | invalidProgram (reason : String)
  | computeBudgetExceeded (requested max : UInt64)
  | emptyInstruction
  | validationFailed (reason : String)
  deriving DecidableEq, Repr

def maxComputeBudget : UInt64 := 1400000

def validate (tx : Transaction) : Except IngressError Unit :=
  if tx.sender.isEmpty then .error (.invalidSender "empty sender")
  else if tx.programId.isEmpty then .error (.invalidProgram "empty program_id")
  else if tx.instructionData.isEmpty then .error .emptyInstruction
  else if maxComputeBudget < tx.estimatedCu then
    .error (.computeBudgetExceeded tx.estimatedCu maxComputeBudget)
  else .ok ()

inductive Scenario where
  | steady
  | bursty
  | poisson
  | mixedPriority
  | idleThenSpike
  deriving DecidableEq, Repr

def Scenario.name : Scenario → String
  | .steady => "steady"
  | .bursty => "bursty"
  | .poisson => "poisson"
  | .mixedPriority => "mixed_priority"
  | .idleThenSpike => "idle_then_spike"

def Scenario.all : List Scenario :=
  [.steady, .bursty, .poisson, .mixedPriority, .idleThenSpike]

structure Within (low high : Nat) where
  value : Nat
  above : low ≤ value
  below : value < high

def Within.asU64 {low high : Nat} (draw : Within low high) : UInt64 := UInt64.ofNat draw.value

/-- A draw of the exponential distribution, a non-negative `f64`. -/
inductive Sample where
  | finite (value : Rat) (nonNegative : 0 ≤ value)
  | infinite

/-- `sample.max(1.0) as u64`: the cast truncates and saturates. -/
def Sample.atLeastOne : Sample → UInt64
  | .finite value _ => UInt64.ofNat (min (max value 1).floor.toNat (2 ^ 64 - 1))
  | .infinite => UInt64.ofNat (2 ^ 64 - 1)

inductive IntType where
  | u8
  | i32
  | u64
  deriving DecidableEq, Repr

/-- The calls the generator makes to `StdRng` and `Exp`. -/
structure Rng (Source : Type) where
  seedFromU64 : UInt64 → Source
  genRange : IntType → (low high : Nat) → low < high → Source → Within low high × Source
  genBool : Float → Source → Bool × Source
  genU64 : Source → UInt64 × Source
  sampleExp : Float → Source → Sample × Source

variable {Source : Type}

structure WorkloadGenerator (Source : Type) where
  source : Source
  scenario : Scenario
  txCount : Nat
  baseIntervalMs : UInt64
  currentTimeMs : UInt64
  generated : Nat

def WorkloadGenerator.new (rng : Rng Source) (scenario : Scenario) (txCount : Nat)
    (seed baseIntervalMs : UInt64) : WorkloadGenerator Source where
  source := rng.seedFromU64 seed
  scenario := scenario
  txCount := txCount
  baseIntervalMs := baseIntervalMs
  currentTimeMs := 0
  generated := 0

def addI64 (mode : OverflowMode) (left right : Int64) : Option Int64 :=
  match mode with
  | .wrapping => some (left + right)
  | .panicking =>
      if -2 ^ 63 ≤ left.toInt + right.toInt ∧ left.toInt + right.toInt < 2 ^ 63 then
        some (left + right)
      else none

/-- `Exp::new` refuses a rate that is not at least zero, and 0.01 takes its place. -/
def expRate (lambda : Float) : Float := if 0.0 ≤ lambda then lambda else 0.01

def priorityOf (draw : Nat) : TransactionPriority :=
  if draw ≤ 5 then .critical
  else if draw ≤ 20 then .high
  else if draw ≤ 70 then .normal
  else .low

def WorkloadGenerator.computeArrival (rng : Rng Source) (mode : OverflowMode)
    (generator : WorkloadGenerator Source) :
    Option ((UInt64 × TransactionPriority) × Source) :=
  match generator.scenario with
  | .steady => do
      let (draw, source) := rng.genRange .i32 0 10 (by decide) generator.source
      let jitter := Int64.ofNat draw.value - 5
      let shifted ← addI64 mode generator.baseIntervalMs.toInt64 jitter
      some (((max shifted 1).toUInt64, .normal), source)
  | .bursty =>
      let (isBurst, source) := rng.genBool 0.2 generator.source
      if isBurst then
        let (delta, source) := rng.genRange .u64 1 5 (by decide) source
        some ((delta.asU64, .normal), source)
      else
        let (delta, source) := rng.genRange .u64 50 200 (by decide) source
        some ((delta.asU64, .normal), source)
  | .poisson =>
      let lambda := 1.0 / generator.baseIntervalMs.toFloat
      let (sample, source) := rng.sampleExp (expRate lambda) generator.source
      some ((sample.atLeastOne, .normal), source)
  | .mixedPriority =>
      let (delta, source) := rng.genRange .u64 5 50 (by decide) generator.source
      let (draw, source) := rng.genRange .i32 0 100 (by decide) source
      some ((delta.asU64, priorityOf draw.value), source)
  | .idleThenSpike =>
      let progress := usizeAsF64 generator.generated / usizeAsF64 generator.txCount
      if progress < 0.3 then
        let (delta, source) := rng.genRange .u64 100 500 (by decide) generator.source
        some ((delta.asU64, .low), source)
      else if progress < 0.7 then
        let (delta, source) := rng.genRange .u64 1 5 (by decide) generator.source
        some ((delta.asU64, .high), source)
      else
        let (delta, source) := rng.genRange .u64 20 100 (by decide) generator.source
        some ((delta.asU64, .normal), source)

def estimateCu (rng : Rng Source) (source : Source) : TransactionPriority → UInt64 × Source
  | .critical =>
      let (estimate, source) := rng.genRange .u64 100000 200000 (by decide) source
      (estimate.asU64, source)
  | .high =>
      let (estimate, source) := rng.genRange .u64 50000 150000 (by decide) source
      (estimate.asU64, source)
  | .normal =>
      let (estimate, source) := rng.genRange .u64 10000 100000 (by decide) source
      (estimate.asU64, source)
  | .low =>
      let (estimate, source) := rng.genRange .u64 5000 50000 (by decide) source
      (estimate.asU64, source)

def generateInstruction (rng : Rng Source) (source : Source) : List UInt8 × Source :=
  let (opcode, source) := rng.genRange .u8 0 5 (by decide) source
  let data := [UInt8.ofNat opcode.value]
  match opcode.value with
  | 0 =>
      let (amount, source) := rng.genRange .u64 1 1000 (by decide) source
      let (target, source) := rng.genRange .u64 0 100 (by decide) source
      (data ++ toLeBytes amount.asU64 ++ toLeBytes target.asU64, source)
  | 1 =>
      let (key, source) := rng.genRange .u64 0 50 (by decide) source
      let (value, source) := rng.genU64 source
      (data ++ toLeBytes key.asU64 ++ toLeBytes value, source)
  | 2 =>
      let (key, source) := rng.genRange .u64 0 50 (by decide) source
      let (delta, source) := rng.genRange .u64 1 100 (by decide) source
      (data ++ toLeBytes key.asU64 ++ toLeBytes delta.asU64, source)
  | 3 => (data, source)
  | _ => (data ++ List.replicate 8 0xFF, source)

/-- Not in the source: the operands behind these bytes, by the same draws in the same order. -/
def drawnInstruction (rng : Rng Source) (source : Source) : Instruction :=
  let (opcode, source) := rng.genRange .u8 0 5 (by decide) source
  match opcode.value with
  | 0 =>
      let (amount, source) := rng.genRange .u64 1 1000 (by decide) source
      let (target, _) := rng.genRange .u64 0 100 (by decide) source
      .transfer amount.asU64 target.asU64
  | 1 =>
      let (key, source) := rng.genRange .u64 0 50 (by decide) source
      let (value, _) := rng.genU64 source
      .setData key.asU64 value
  | 2 =>
      let (key, source) := rng.genRange .u64 0 50 (by decide) source
      let (delta, _) := rng.genRange .u64 1 100 (by decide) source
      .increment key.asU64 delta.asU64
  | 3 => .noop
  | _ => .unknown 4

def workloadTxId (generated : Nat) : TransactionId := ⟨"tx_" ++ padded 10 6 generated⟩

def WorkloadGenerator.next (rng : Rng Source) (mode : OverflowMode)
    (generator : WorkloadGenerator Source) :
    Option (Option (Transaction × WorkloadGenerator Source)) :=
  if generator.txCount ≤ generator.generated then some none
  else do
    let ((delta, priority), source) ← generator.computeArrival rng mode
    let currentTimeMs ← addU64 mode generator.currentTimeMs delta
    let (sender, source) := rng.genRange .i32 0 100 (by decide) source
    let (program, source) := rng.genRange .i32 0 5 (by decide) source
    let (estimatedCu, source) := estimateCu rng source priority
    let (instructionData, source) := generateInstruction rng source
    let tx := Transaction.new (workloadTxId generator.generated)
      ("sender_" ++ toString sender.value) ("program_" ++ toString program.value)
    some (some
      ({ tx with
          arrivalTs := currentTimeMs
          instructionData := instructionData
          estimatedCu := estimatedCu
          priority := priority },
        { generator with
          source := source
          currentTimeMs := currentTimeMs
          generated := generator.generated + 1 }))

def WorkloadGenerator.remaining (generator : WorkloadGenerator Source) : Nat :=
  generator.txCount - generator.generated

/-- `collect` on the iterator, given up after `fuel` calls of `next`. -/
def WorkloadGenerator.collect (rng : Rng Source) (mode : OverflowMode) :
    Nat → WorkloadGenerator Source → Option (List Transaction)
  | 0, _ => none
  | fuel + 1, generator => do
      match ← generator.next rng mode with
      | none => some []
      | some (tx, later) => do
          let rest ← later.collect rng mode fuel
          some (tx :: rest)

end CatalystSvm.Ingress
