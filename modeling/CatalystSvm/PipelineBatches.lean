import CatalystSvm.PipelineRuns

/-!
# Batches of a pipeline run

The engine ingests a stream and is flushed at the end. The recorded batches are
consecutive segments of the stream, and the policy alone decides how long they
get: at most as long as the queue length at which it always seals.
-/

namespace CatalystSvm.PipelineBatches

open CatalystSvm.CommonTypes CatalystSvm.MachineArithmetic CatalystSvm.BatchPolicy
open CatalystSvm.CommonMetrics CatalystSvm.IssuedIds CatalystSvm.ExecutionEngine
open CatalystSvm.PipelineEngine CatalystSvm.PipelineRuns

set_option autoImplicit false

section Streams

variable {Policy World : Type} [PolicyEngine Policy] [Clock World]

/-- The loop of the benchmark: ingest one transaction after the other, up to the
first error. -/
def ingestAll (setup : Setup World) :
    List Transaction → Machine Policy World → Option (Outcome Policy World)
  | [], machine => some (.ok (), machine)
  | tx :: rest, machine =>
      match ingest setup tx machine with
      | some (.ok (), next) => ingestAll setup rest next
      | stopped => stopped

variable {setup : Setup World} {machine after : Machine Policy World}

theorem ingest_all_cons_ok {tx : Transaction} {rest : List Transaction}
    (ran : ingestAll setup (tx :: rest) machine = some (.ok (), after)) :
    ∃ next, perform setup (.ingest tx) machine = some (.ok (), next) ∧
      ingestAll setup rest next = some (.ok (), after) := by
  cases first : ingest setup tx machine with
  | none => simp [ingestAll, first] at ran
  | some outcome =>
      rcases outcome with ⟨result, next⟩
      cases result with
      | error error => simp [ingestAll, first] at ran
      | ok done =>
          simp only [ingestAll, first] at ran
          exact ⟨next, first, ran⟩

theorem ingest_all_partitioned {policy : Policy}
    (Holds : List (List Transaction) → List Transaction → Prop)
    (grow : ∀ segments rest tx oldestWait rate, Holds segments rest →
      PolicyEngine.shouldSeal policy (rest.length + 1) oldestWait rate = false →
      Holds segments (rest ++ [tx]))
    (close : ∀ segments rest tx oldestWait rate, Holds segments rest →
      PolicyEngine.shouldSeal policy (rest.length + 1) oldestWait rate = true →
      Holds (segments ++ [rest ++ [tx]]) [])
    {txs ingested rest : List Transaction} {segments : List (List Transaction)}
    (part : Partitioned setup ingested segments rest machine.engine)
    (same : machine.engine.policy = policy) (holds : Holds segments rest)
    (ran : ingestAll setup txs machine = some (.ok (), after)) :
    ∃ final remaining, Partitioned setup (ingested ++ txs) final remaining after.engine ∧
      Holds final remaining := by
  induction txs generalizing machine ingested segments rest with
  | nil =>
      simp only [ingestAll, Option.some.injEq, Prod.mk.injEq, true_and] at ran
      subst ran
      exact ⟨segments, rest, by rwa [List.append_nil], holds⟩
  | cons tx txs ih =>
      rcases ingest_all_cons_ok ran with ⟨next, first, others⟩
      rcases ingest_partitioned part first with ⟨kept, oldestWait, rate, decided⟩
      rw [same] at kept decided
      rw [List.append_cons]
      rcases decided with ⟨waits, grown⟩ | ⟨seals, closed⟩
      · exact ih grown kept (grow _ _ tx _ _ holds waits) others
      · exact ih closed kept (close _ _ tx _ _ holds seals) others

structure ServicesOk (setup : Setup World) : Prop where
  prove : ∀ trace transactions world, ∃ proof next,
    setup.prove trace transactions world = (.ok proof, next)
  verify : ∀ proof trace world, ∃ verification next,
    setup.verify proof trace world = (.ok verification, next)

theorem perform_ok (services : ServicesOk setup) {call : Call} {result : Except ExecError Unit}
    (returned : perform setup call machine = some (result, after)) : result = .ok () := by
  rcases perform_some returned with ⟨done, _⟩ | ⟨point, _, _, _, spec⟩
  · exact done
  · cases spec with
    | idle empty => rfl
    | recorded filled executed accepted => rfl
    | failed filled executed rejected =>
        rcases services.prove _ point.engine.pending (Clock.nowMs point.world).2 with
          ⟨proof, proved, proves⟩
        rcases services.verify proof _ proved with ⟨verification, verified, verifies⟩
        exact absurd ⟨proves, verifies⟩ (rejected proof verification proved verified)

theorem perform_total (release : setup.mode = .wrapping)
    (strict : machine.engine.executor.inner.failOnInvalid = true) (call : Call) :
    ∃ outcome, perform setup call machine = some outcome := by
  rcases perform_cases setup call machine with ⟨_, rests⟩ | ⟨point, _, same, filled, seals⟩
  · exact ⟨_, rests⟩
  · have strictPoint : point.engine.executor.inner.failOnInvalid = true := by
      rw [same, (resting_frame call machine).executor]
      exact strict
    rw [seals]
    have spec := seal_spec setup point
    cases sealed : sealAndProcess setup point with
    | some outcome => exact ⟨outcome, rfl⟩
    | none =>
        rw [sealed] at spec
        cases spec with
        | panicked _ stopped =>
            let counter := point.engine.batchCounter + 1
            rcases execute_submissions_wrapping_total setup.hashBytes point.engine.executor.inner
              strictPoint (nextBatch point counter) (point.engine.pending.map submissionOf) with
              ⟨trace, executed⟩
            have counted : addU64 setup.mode point.engine.batchCounter 1 = some counter := by
              rw [release]
              rfl
            have traced : point.engine.executor.executeWithTransactions setup.hashBytes setup.mode
                (nextBatch point counter) point.engine.pending = some trace := by
              rw [release]
              exact executed
            exact absurd ⟨counted, traced⟩ (stopped counter trace)

theorem ingest_all_ok (services : ServicesOk setup) {txs : List Transaction}
    {result : Except ExecError Unit} (ran : ingestAll setup txs machine = some (result, after)) :
    result = .ok () := by
  induction txs generalizing machine with
  | nil =>
      cases ran
      rfl
  | cons tx txs ih =>
      cases first : ingest setup tx machine with
      | none => simp [ingestAll, first] at ran
      | some outcome =>
          rcases outcome with ⟨firstResult, next⟩
          have done : firstResult = .ok () :=
            perform_ok services (show perform setup (.ingest tx) machine = _ from first)
          subst done
          simp only [ingestAll, first] at ran
          exact ih ran

theorem ingest_all_total (services : ServicesOk setup) (release : setup.mode = .wrapping)
    (txs : List Transaction) (machine : Machine Policy World)
    (strict : machine.engine.executor.inner.failOnInvalid = true) :
    ∃ final, ingestAll setup txs machine = some (.ok (), final) ∧
      final.engine.executor = machine.engine.executor := by
  induction txs generalizing machine with
  | nil => exact ⟨machine, rfl, rfl⟩
  | cons tx txs ih =>
      rcases perform_total release strict (.ingest tx) with ⟨⟨result, next⟩, first⟩
      have done := perform_ok services first
      subst done
      have kept := (perform_keeps first).2
      rcases ih next (by rw [kept]; exact strict) with ⟨final, ran, same⟩
      have whole : ingestAll setup (tx :: txs) machine = ingestAll setup txs next := by
        change ingest setup tx machine = _ at first
        simp only [ingestAll, first]
      exact ⟨final, whole.trans ran, same.trans kept⟩

end Streams

section Partition

variable {Policy World : Type} {setup : Setup World} {engine : Engine Policy}
variable {ingested rest : List Transaction} {segments : List (List Transaction)}

/-- The `k`-th recorded batch is named after `k` and executes the `k`-th segment, its
fast lane first. -/
structure RecordsSegments (setup : Setup World) (engine : Engine Policy)
    (segments : List (List Transaction)) : Prop where
  count : engine.metrics.batchMetrics.length = segments.length
  batch : ∀ index segment, segments[index]? = some segment →
    ∃ entry, engine.recorded[index]? = some entry ∧
      engine.metrics.batchMetrics[index]? = some entry.metrics ∧
      entry.metrics.batchId = formatBatchId (UInt64.ofNat (index + 1)) ∧
      entry.metrics.batchSize = segment.length ∧
      entry.transactions = priorityFirst segment ∧
      engine.executor.executeWithTransactions setup.hashBytes setup.mode entry.batch
        entry.transactions = some entry.trace

theorem partitioned_records (part : Partitioned setup ingested segments rest engine) :
    RecordsSegments setup engine segments := by
  constructor
  · have lengths := congrArg List.length part.transactions
    rw [List.length_map, List.length_map] at lengths
    rw [part.metrics, List.length_map, lengths]
  · intro index segment found
    have bound : index < segments.length := (List.getElem?_eq_some_iff.mp found).1
    have executed := congrArg (fun values => values[index]?) part.transactions
    have named := congrArg (fun values => values[index]?) part.ids
    simp only [List.getElem?_map, found, Option.map_some, Option.map_eq_some_iff] at executed
    rcases executed with ⟨entry, entryFound, transactions⟩
    simp only [List.getElem?_map, entryFound, Option.map_some, issued_get formatBatchId bound,
      Option.some.injEq] at named
    have consistent := part.entries entry (List.mem_of_getElem? entryFound)
    refine ⟨entry, entryFound, ?_, consistent.batchId.trans named, ?_, transactions,
      consistent.trace⟩
    · rw [part.metrics, List.getElem?_map, entryFound]
      rfl
    · rw [consistent.batchSize, transactions, (priority_first_perm segment).length_eq]

theorem partitioned_sizes (part : Partitioned setup ingested segments rest engine) :
    engine.metrics.batchSizes = segments.map List.length := by
  have sizes : engine.recorded.map (fun entry => entry.metrics.batchSize) =
      (engine.recorded.map RecordedBatch.transactions).map List.length := by
    rw [List.map_map]
    apply List.map_congr_left
    intro entry member
    exact (part.entries entry member).batchSize
  rw [MetricsAggregator.batchSizes, part.metrics, List.map_map]
  change engine.recorded.map (fun entry => entry.metrics.batchSize) = _
  rw [sizes, part.transactions, List.map_map]
  apply List.map_congr_left
  intro segment _
  exact (priority_first_perm segment).length_eq

end Partition

/-- The recorded batches are a stable priority partition of consecutive non-empty
segments of the stream, and `flush` ends with nothing left over. -/
theorem stream_partitioned_into_batches {Policy World : Type} [PolicyEngine Policy] [Clock World]
    (setup : Setup World) (services : ServicesOk setup) (policy : Policy) (maxCu : UInt64)
    (world : World) (txs : List Transaction) :
    (setup.mode = .wrapping → ∃ machine,
      ingestAll setup txs ⟨.new policy (.new maxCu), world⟩ = some (.ok (), machine)) ∧
    ∀ result machine,
      ingestAll setup txs ⟨.new policy (.new maxCu), world⟩ = some (result, machine) →
      result = .ok () ∧
      (∃ (segments : List (List Transaction)) (rest : List Transaction),
        txs = segments.flatten ++ rest ∧ (∀ segment ∈ segments, segment ≠ []) ∧
        RecordsSegments setup machine.engine segments ∧
        machine.engine.priorityLane = rest.filter fastLane ∧
        machine.engine.queue = rest.filter fun tx => !fastLane tx) ∧
      ∃ flushed, (∀ fuel, flush setup (fuel + 2) machine = some flushed) ∧
        (setup.mode = .wrapping → flushed.isSome = true) ∧
        ∀ flushResult after, flushed = some (flushResult, after) →
          flushResult = .ok () ∧ after.engine.queue = [] ∧ after.engine.priorityLane = [] ∧
            after.engine.metrics.transactionCount = txs.length := by
  have total : setup.mode = .wrapping → ∃ machine,
      ingestAll setup txs ⟨.new policy (.new maxCu), world⟩ = some (.ok (), machine) ∧
        machine.engine.executor = .new maxCu :=
    fun release => ingest_all_total services release txs ⟨.new policy (.new maxCu), world⟩ rfl
  constructor
  · intro release
    rcases total release with ⟨machine, ran, _⟩
    exact ⟨machine, ran⟩
  · intro result machine ran
    have done := ingest_all_ok services ran
    subst done
    rcases ingest_all_partitioned (fun _ _ => True) (fun _ _ _ _ _ _ _ => trivial)
      (fun _ _ _ _ _ _ _ => trivial) (new_partitioned setup policy (.new maxCu)) rfl trivial ran
      with ⟨segments, rest, part, _⟩
    refine ⟨rfl, ⟨segments, rest, part.stream, part.filled, partitioned_records part, part.lane,
      part.queue⟩, perform setup .flush machine, ?_, ?_, ?_⟩
    · intro fuel
      rw [flush_eq]
      change _ = some ((flush setup 2 machine).getD none)
      rw [flush_eq setup 0]
      rfl
    · intro release
      rcases total release with ⟨final, sameRun, kept⟩
      cases ran.symm.trans sameRun
      have strict : machine.engine.executor.inner.failOnInvalid = true := by rw [kept]; rfl
      rcases perform_total release strict .flush with ⟨outcome, returned⟩
      rw [returned]
      rfl
    · intro flushResult after returned
      have flushed := perform_ok services returned
      subst flushed
      rcases flush_partitioned part returned with ⟨final, finalPart, _⟩
      refine ⟨rfl, finalPart.queue, finalPart.lane, ?_⟩
      have stream := finalPart.stream
      rw [List.append_nil] at stream
      rw [MetricsAggregator.transactionCount, partitioned_sizes finalPart, ← List.length_flatten,
        ← stream]
      rfl

section Samples

/-- Proving takes 50 ms of virtual time and verifying 5. -/
def sampleSetup : Setup VirtualClock where
  hashBytes := CommonMerkle.sampleDigest
  mode := .wrapping
  prove trace transactions clock :=
    (.ok {
      batchId := trace.batchId
      proofData := []
      proofHash := ""
      commitment := {
        batchHash := ""
        traceHash := trace.traceHash
        stateRootPre := trace.stateRootPre
        stateRootPost := trace.stateRootPost
        totalCompute := trace.totalCompute
        txCount := transactions.length }
      generatedAt := clock.currentMs
      provingTimeMs := 50
      proofSizeBytes := 1000 }, Clock.advance clock 50)
  verify proof _ clock :=
    (.ok { batchId := proof.batchId, isValid := true, verificationTimeMs := 5, error := none },
      Clock.advance clock 5)

def sampleArrival (id : String) (arrivalTs : UInt64) (priority : TransactionPriority) :
    Transaction :=
  { Transaction.new ⟨id⟩ ("sender_" ++ id) "program" with
    arrivalTs := arrivalTs
    instructionData := [3]
    priority := priority }

theorem sample_services : ServicesOk sampleSetup where
  prove _ _ _ := ⟨_, _, rfl⟩
  verify _ _ _ := ⟨_, _, rfl⟩

end Samples

def mixedStream : List Transaction :=
  [sampleArrival "a" 0 .low, sampleArrival "b" 10 .critical, sampleArrival "c" 20 .normal]

/-- In twos: the first two are one batch, and the third is left for `flush`. -/
theorem mixed_stream_is_ingested :
    ∃ machine, ingestAll sampleSetup mixedStream
        ⟨.new (FixedCountPolicy.mk 2) (.new 200000), ⟨0⟩⟩ = some (.ok (), machine) ∧
      RecordsSegments sampleSetup machine.engine
        [[sampleArrival "a" 0 .low, sampleArrival "b" 10 .critical]] ∧
      machine.engine.priorityLane = [] ∧
      machine.engine.queue = [sampleArrival "c" 20 .normal] ∧
      ∃ after, (∀ fuel, flush sampleSetup (fuel + 2) machine = some (some (.ok (), after))) ∧
        after.engine.metrics.transactionCount = 3 := by
  obtain ⟨returns, partitions⟩ := stream_partitioned_into_batches sampleSetup sample_services
    (FixedCountPolicy.mk 2) 200000 ⟨0⟩ mixedStream
  obtain ⟨machine, ran⟩ := returns rfl
  obtain ⟨_, ⟨segments, rest, stream, _, records, lane, queue⟩, flushed, flushes, total, empties⟩ :=
    partitions _ machine ran
  have computed : (ingestAll sampleSetup mixedStream
      ⟨.new (FixedCountPolicy.mk 2) (.new 200000), ⟨0⟩⟩).map (fun outcome =>
        (outcome.2.engine.metrics.batchMetrics.length, outcome.2.engine.priorityLane,
          outcome.2.engine.queue)) = some (1, [], [sampleArrival "c" 20 .normal]) := by
    decide +kernel
  rw [ran, Option.map_some, Option.some.injEq, Prod.mk.injEq, Prod.mk.injEq] at computed
  obtain ⟨batches, noLane, oneQueued⟩ := computed
  have slow : ∀ tx ∈ rest, (!fastLane tx) = true := by
    intro tx member
    rw [Bool.not_eq_true', Bool.eq_false_iff]
    exact List.filter_eq_nil_iff.mp (lane.symm.trans noLane) tx member
  have last : rest = [sampleArrival "c" 20 .normal] := by
    rw [← oneQueued, queue, List.filter_eq_self.mpr slow]
  obtain ⟨segment, single⟩ := List.length_eq_one_iff.mp (records.count.symm.trans batches)
  have first : segment = [sampleArrival "a" 0 .low, sampleArrival "b" 10 .critical] := by
    rw [single, last, List.flatten_singleton] at stream
    change [_, _] ++ [_] = segment ++ [_] at stream
    exact (List.append_cancel_right stream).symm
  rw [single, first] at records
  obtain ⟨⟨flushResult, after⟩, returned⟩ := Option.isSome_iff_exists.mp (total rfl)
  obtain ⟨done, _, _, counted⟩ := empties flushResult after returned
  subst done
  exact ⟨machine, ran, records, noLane, oneQueued, after, fun fuel => by rw [flushes, returned],
    counted⟩

/-! ## Batch sizes -/

section Sizes

variable {Policy World : Type} [PolicyEngine Policy] [Clock World]

def ingestAllAndFlush (setup : Setup World) (txs : List Transaction)
    (machine : Machine Policy World) : Option (Outcome Policy World) :=
  match ingestAll setup txs machine with
  | some (.ok (), next) => perform setup .flush next
  | stopped => stopped

variable {setup : Setup World} {policy : Policy} {executor : FullExecutor} {world : World}
variable {txs : List Transaction} {after : Machine Policy World}

theorem simulation_segments (Holds : List (List Transaction) → List Transaction → Prop)
    (grow : ∀ segments rest tx oldestWait rate, Holds segments rest →
      PolicyEngine.shouldSeal policy (rest.length + 1) oldestWait rate = false →
      Holds segments (rest ++ [tx]))
    (close : ∀ segments rest tx oldestWait rate, Holds segments rest →
      PolicyEngine.shouldSeal policy (rest.length + 1) oldestWait rate = true →
      Holds (segments ++ [rest ++ [tx]]) [])
    (initially : Holds [] [])
    (ran : ingestAllAndFlush setup txs ⟨.new policy executor, world⟩ = some (.ok (), after)) :
    ∃ segments rest, Holds segments rest ∧ txs = segments.flatten ++ rest ∧
      after.engine.metrics.batchSizes =
        segments.map List.length ++ if rest = [] then [] else [rest.length] := by
  cases ingested : ingestAll setup txs ⟨.new policy executor, world⟩ with
  | none => simp [ingestAllAndFlush, ingested] at ran
  | some outcome =>
      rcases outcome with ⟨result, next⟩
      cases result with
      | error error => simp [ingestAllAndFlush, ingested] at ran
      | ok done =>
          simp only [ingestAllAndFlush, ingested] at ran
          rcases ingest_all_partitioned Holds grow close (new_partitioned setup policy executor)
            rfl initially ingested with ⟨segments, rest, part, holds⟩
          rcases flush_partitioned part ran with ⟨final, finalPart, finalEq⟩
          refine ⟨segments, rest, holds, part.stream, ?_⟩
          rw [partitioned_sizes finalPart, finalEq]
          split_ifs
          · rw [List.append_nil]
          · rw [List.map_append, List.map_singleton]

theorem below_of_waits {limit queueLen : Nat} {oldestWait : UInt64} {rate : Float}
    (seals : SealsAt policy limit)
    (waits : PolicyEngine.shouldSeal policy queueLen oldestWait rate = false) :
    queueLen < limit := by
  by_contra full
  rw [seals _ _ _ (Nat.le_of_not_lt full)] at waits
  cases waits

/-- Under a policy that always seals at a length, every closed segment is closed by a
decision at no greater length. -/
theorem closed_segments {limit : Nat} (seals : SealsAt policy limit) (positive : 1 ≤ limit)
    (Closed : List Transaction → Prop)
    (closes : ∀ rest tx oldestWait rate, rest.length < limit →
      PolicyEngine.shouldSeal policy (rest.length + 1) oldestWait rate = true →
      Closed (rest ++ [tx]))
    (ran : ingestAllAndFlush setup txs ⟨.new policy executor, world⟩ = some (.ok (), after)) :
    ∃ (segments : List (List Transaction)) (rest : List Transaction), rest.length < limit ∧
      (∀ segment ∈ segments, Closed segment) ∧
      txs = segments.flatten ++ rest ∧
      after.engine.metrics.batchSizes =
        segments.map List.length ++ if rest = [] then [] else [rest.length] := by
  let Holds := fun (segments : List (List Transaction)) (rest : List Transaction) =>
    rest.length < limit ∧ ∀ segment ∈ segments, Closed segment
  have grow : ∀ segments rest (tx : Transaction) oldestWait rate, Holds segments rest →
      PolicyEngine.shouldSeal policy (rest.length + 1) oldestWait rate = false →
      Holds segments (rest ++ [tx]) := by
    intro segments rest tx oldestWait rate holds waits
    refine ⟨?_, holds.2⟩
    rw [List.length_append]
    exact below_of_waits seals waits
  have close : ∀ segments rest (tx : Transaction) oldestWait rate, Holds segments rest →
      PolicyEngine.shouldSeal policy (rest.length + 1) oldestWait rate = true →
      Holds (segments ++ [rest ++ [tx]]) [] := by
    intro segments rest tx oldestWait rate holds sealing
    refine ⟨positive, ?_⟩
    intro segment member
    rcases List.mem_append.mp member with old | new
    · exact holds.2 segment old
    · rw [List.mem_singleton.mp new]
      exact closes rest tx oldestWait rate holds.1 sealing
  rcases simulation_segments Holds grow close ⟨positive, by simp⟩ ran with
    ⟨segments, rest, holds, stream, sizes⟩
  exact ⟨segments, rest, holds.1, holds.2, stream, sizes⟩

theorem sizes_capped {limit : Nat} (seals : SealsAt policy limit) (positive : 1 ≤ limit)
    (ran : ingestAllAndFlush setup txs ⟨.new policy executor, world⟩ = some (.ok (), after)) :
    ∀ size ∈ after.engine.metrics.batchSizes, size ≤ limit := by
  have closes : ∀ (rest : List Transaction) (tx : Transaction) oldestWait rate,
      rest.length < limit →
      PolicyEngine.shouldSeal policy (rest.length + 1) oldestWait rate = true →
      (rest ++ [tx]).length ≤ limit := by
    intro rest tx oldestWait rate short _
    rw [List.length_append]
    exact short
  rcases closed_segments seals positive (fun segment => segment.length ≤ limit) closes ran with
    ⟨segments, rest, short, closed, _, sizes⟩
  rw [sizes]
  intro size member
  rcases List.mem_append.mp member with inSegment | last
  · rcases List.mem_map.mp inSegment with ⟨segment, listed, rfl⟩
    exact closed segment listed
  · split_ifs at last
    · cases last
    · rw [List.mem_singleton.mp last]
      exact Nat.le_of_lt short

theorem sizes_exact {limit : Nat} (seals : SealsAt policy limit)
    (waits : WaitsBelow policy limit) (positive : 1 ≤ limit)
    (ran : ingestAllAndFlush setup txs ⟨.new policy executor, world⟩ = some (.ok (), after)) :
    after.engine.metrics.batchSizes = List.replicate (txs.length / limit) limit ++
      if txs.length % limit = 0 then [] else [txs.length % limit] := by
  have closes : ∀ (rest : List Transaction) (tx : Transaction) oldestWait rate,
      rest.length < limit →
      PolicyEngine.shouldSeal policy (rest.length + 1) oldestWait rate = true →
      (rest ++ [tx]).length = limit := by
    intro rest tx oldestWait rate short sealing
    have reached : limit ≤ rest.length + 1 := by
      by_contra early
      rw [waits _ _ _ (Nat.lt_of_not_le early)] at sealing
      cases sealing
    rw [List.length_append]
    exact Nat.le_antisymm short reached
  rcases closed_segments seals positive (fun segment => segment.length = limit) closes ran with
    ⟨segments, rest, short, closed, stream, sizes⟩
  have lengths : segments.map List.length = List.replicate segments.length limit := by
    rw [List.eq_replicate_iff]
    refine ⟨List.length_map _, ?_⟩
    intro size member
    rcases List.mem_map.mp member with ⟨segment, listed, rfl⟩
    exact closed segment listed
  have total : txs.length = segments.length * limit + rest.length := by
    rw [stream, List.length_append, List.length_flatten, lengths, List.sum_replicate_nat]
  have quotient : txs.length / limit = segments.length := by
    rw [total, Nat.mul_comm, Nat.mul_add_div positive, Nat.div_eq_of_lt short, Nat.add_zero]
  have remainder : txs.length % limit = rest.length := by
    rw [total, Nat.mul_comm, Nat.mul_add_mod, Nat.mod_eq_of_lt short]
  rw [sizes, lengths, quotient, remainder]
  simp only [List.length_eq_zero_iff]

end Sizes

theorem replicate_remainder_length (total limit : Nat) (positive : 1 ≤ limit) :
    (List.replicate (total / limit) limit ++
      if total % limit = 0 then [] else [total % limit]).length = (total + limit - 1) / limit := by
  have parts := Nat.div_add_mod total limit
  have small := Nat.mod_lt total positive
  have regroup : total + limit - 1 = limit * (total / limit) + (total % limit + limit - 1) := by
    omega
  rw [List.length_append, List.length_replicate, regroup, Nat.mul_add_div positive]
  congr 1
  split_ifs with exact
  · rw [exact, Nat.zero_add, List.length_nil]
    exact (Nat.div_eq_of_lt (by omega)).symm
  · rw [List.length_singleton]
    exact (Nat.div_eq_of_lt_le (by omega) (by omega)).symm

/-- Over whole simulations in which every seal succeeds: exact sizes for the
fixed-count policy, upper bounds for the hybrid and the adaptive one. -/
theorem batch_size_guarantees {World : Type} [Clock World] (setup : Setup World)
    (executor : FullExecutor) (world : World) (txs : List Transaction) :
    (∀ (policy : FixedCountPolicy) (after : Machine FixedCountPolicy World),
      1 ≤ policy.threshold →
      ingestAllAndFlush setup txs ⟨.new policy executor, world⟩ = some (.ok (), after) →
      after.engine.metrics.batchSizes =
          List.replicate (txs.length / policy.threshold) policy.threshold ++
            (if txs.length % policy.threshold = 0 then [] else [txs.length % policy.threshold]) ∧
        after.engine.metrics.batchMetrics.length =
          (txs.length + policy.threshold - 1) / policy.threshold) ∧
    (∀ (policy : HybridPolicy) (after : Machine HybridPolicy World),
      1 ≤ policy.countThreshold →
      ingestAllAndFlush setup txs ⟨.new policy executor, world⟩ = some (.ok (), after) →
      ∀ size ∈ after.engine.metrics.batchSizes, size ≤ policy.countThreshold) ∧
    (∀ (policy : AdaptivePolicy) (after : Machine AdaptivePolicy World),
      1 ≤ policy.maxCount →
      ingestAllAndFlush setup txs ⟨.new policy executor, world⟩ = some (.ok (), after) →
      ∀ size ∈ after.engine.metrics.batchSizes, size ≤ policy.maxCount) := by
  refine ⟨?_, ?_, ?_⟩
  · intro policy after positive ran
    have sizes := sizes_exact (fixed_count_seals_at policy) (fixed_count_waits_below policy)
      positive ran
    refine ⟨sizes, ?_⟩
    have counted := congrArg List.length sizes
    rw [replicate_remainder_length _ _ positive, MetricsAggregator.batchSizes,
      List.length_map] at counted
    exact counted
  · intro policy after positive ran
    exact sizes_capped (hybrid_seals_at policy) positive ran
  · intro policy after positive ran
    exact sizes_capped (adaptive_seals_at policy policy.maxCount positive (Nat.le_refl _))
      positive ran

theorem three_transactions_in_twos :
    ∃ after, ingestAllAndFlush sampleSetup
        [sampleArrival "a" 0 .low, sampleArrival "b" 10 .critical, sampleArrival "c" 20 .normal]
        ⟨.new (FixedCountPolicy.mk 2) (.new 200000), ⟨0⟩⟩ = some (.ok (), after) ∧
      after.engine.metrics.batchSizes = [2, 1] := by
  have returned : (ingestAllAndFlush sampleSetup
      [sampleArrival "a" 0 .low, sampleArrival "b" 10 .critical, sampleArrival "c" 20 .normal]
      ⟨.new (FixedCountPolicy.mk 2) (.new 200000), ⟨0⟩⟩).map (fun outcome => outcome.1.isOk) =
        some true := by
    decide +kernel
  rcases Option.map_eq_some_iff.mp returned with ⟨⟨result, after⟩, ran, succeeded⟩
  cases result with
  | error error => cases succeeded
  | ok done =>
      exact ⟨after, ran, ((batch_size_guarantees sampleSetup (.new 200000) ⟨0⟩ _).1
        (FixedCountPolicy.mk 2) after (by decide) ran).1⟩

end CatalystSvm.PipelineBatches
