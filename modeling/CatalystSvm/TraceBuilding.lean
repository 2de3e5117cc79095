import CatalystSvm.CommonTypes
import CatalystSvm.CommonMerkle
import CatalystSvm.MachineArithmetic

/-!
# Trace building

Transcription of `crates/trace-builder/src/lib.rs`: the builder that the
executors feed entry by entry, and `compute_state_root`.
-/

namespace CatalystSvm.TraceBuilding

open CatalystSvm.CommonTypes CatalystSvm.CommonMerkle CatalystSvm.MachineArithmetic

set_option autoImplicit false

def computeStateRoot (hashBytes : HashBytes) (state : State) : String :=
  if state.isEmpty then hashStr hashBytes "empty_state"
  else merkleRoot hashBytes (state.toList.map fun entry => hashStr hashBytes (leafText entry))

/-- The strings `computeStateRoot` hashes: the leaf texts, then the tree over their hashes. -/
def stateRootInputs (hashBytes : HashBytes) (state : State) : List String :=
  if state.isEmpty then ["empty_state"]
  else state.toList.map leafText ++
    merkleRootInputs hashBytes (state.toList.map fun entry => hashStr hashBytes (leafText entry))

structure TraceBuilder where
  batchId : String
  entries : List TraceEntry
  preStateRoot : String
  totalCompute : UInt64
  successCount : Nat
  failureCount : Nat

def TraceBuilder.new (hashBytes : HashBytes) (batchId : String) (initialState : State) :
    TraceBuilder where
  batchId := batchId
  entries := []
  preStateRoot := computeStateRoot hashBytes initialState
  totalCompute := 0
  successCount := 0
  failureCount := 0

def TraceBuilder.addEntry (mode : OverflowMode) (builder : TraceBuilder) (entry : TraceEntry) :
    Option TraceBuilder := do
  let totalCompute ← addU64 mode builder.totalCompute entry.computeUsed
  some { builder with
    totalCompute := totalCompute
    successCount := if entry.success then builder.successCount + 1 else builder.successCount
    failureCount := if entry.success then builder.failureCount else builder.failureCount + 1
    entries := builder.entries ++ [entry] }

def entryHash (hashBytes : HashBytes) (entry : TraceEntry) : String :=
  hashTraceEntry hashBytes entry.txId.asStr entry.success entry.computeUsed
    entry.accountsRead entry.accountsWritten

def traceText (entry : TraceEntry) : String :=
  entryText entry.txId.asStr entry.success entry.computeUsed entry.accountsRead
    entry.accountsWritten

def TraceBuilder.build (hashBytes : HashBytes) (builder : TraceBuilder) (finalState : State) :
    ExecutionTrace where
  batchId := builder.batchId
  entries := builder.entries
  stateRootPre := builder.preStateRoot
  stateRootPost := computeStateRoot hashBytes finalState
  traceHash := merkleRoot hashBytes (builder.entries.map (entryHash hashBytes))
  totalCompute := builder.totalCompute
  successCount := builder.successCount
  failureCount := builder.failureCount

/-- `catalyst_common::state_root` is the same function. -/
theorem state_root_eq_compute_state_root (hashBytes : HashBytes) (state : State) :
    stateRoot hashBytes state = computeStateRoot hashBytes state := by
  have leavesEmpty :
      (state.toList.map fun entry => hashStr hashBytes (leafText entry)).isEmpty =
        state.isEmpty := by
    rw [List.isEmpty_map, Std.ExtTreeMap.isEmpty_toList]
  unfold stateRoot computeStateRoot
  simp only [leavesEmpty]
  rfl

end CatalystSvm.TraceBuilding
