import CatalystSvm.Library.Runs
import CatalystSvm.PipelineBatches

/-!
# Reported latency

The engine runs on a virtual clock, which arrivals and the two services move
forward. A batch's reported latency starts at the seal: the time that its
transactions waited before it is left out.
-/

namespace CatalystSvm.LatencyReport

open CatalystSvm.CommonTypes CatalystSvm.MachineArithmetic CatalystSvm.BatchPolicy
open CatalystSvm.CommonMetrics CatalystSvm.ExecutionEngine CatalystSvm.PipelineEngine
open CatalystSvm.PipelineRuns CatalystSvm.PipelineBatches CatalystSvm.Library.Runs

set_option autoImplicit false

/-! ## Arrivals -/

def smallestArrival (transactions : List Transaction) : Nat :=
  (transactions.map fun tx => tx.arrivalTs.toNat).min?.getD 0

theorem smallest_arrival_le {transactions : List Transaction} {tx : Transaction}
    (member : tx ∈ transactions) : smallestArrival transactions ≤ tx.arrivalTs.toNat :=
  List.min?_getD_le_of_mem (List.mem_map_of_mem member)

theorem smallest_arrival_attained {transactions : List Transaction} (filled : transactions ≠ []) :
    ∃ tx ∈ transactions, tx.arrivalTs.toNat = smallestArrival transactions := by
  have some : ((transactions.map fun tx => tx.arrivalTs.toNat).min?).isSome = true :=
    List.isSome_min?_of_ne_nil (by simpa using filled)
  rcases Option.isSome_iff_exists.mp some with ⟨first, found⟩
  rcases List.mem_map.mp (List.min?_mem found) with ⟨tx, member, arrived⟩
  refine ⟨tx, member, ?_⟩
  rw [smallestArrival, found, arrived]
  rfl

/-! ## What a call records -/

section Records

variable {Policy World : Type} [PolicyEngine Policy] [Clock World]

/-- A batch that the call seals and that goes through the whole pipeline. -/
structure Completed (setup : Setup World) (machine : Machine Policy World) (call : Call) where
  point : Machine Policy World
  counter : UInt64
  trace : ExecutionTrace
  proof : Proof
  verification : VerificationResult
  proved : World
  verified : World
  seals : sealPoint call machine = some point
  executed : Executes setup point counter trace
  accepted : Accepts setup point trace proof verification proved verified

variable {setup : Setup World} {machine after : Machine Policy World} {call : Call}

def Completed.entry (done : Completed setup machine call) : RecordedBatch :=
  recordedEntry done.point done.counter done.trace done.proof done.verification done.verified

theorem completed_filled (done : Completed setup machine call) :
    done.point.engine.pending ≠ [] := by
  rcases perform_cases setup call machine with ⟨rests, _⟩ | ⟨point, seals, _, filled, _⟩
  · cases rests.symm.trans done.seals
  · cases seals.symm.trans done.seals
    exact filled

theorem perform_completed (done : Completed setup machine call) :
    ∃ after, perform setup call machine = some (.ok (), after) ∧
      after.engine.recorded = machine.engine.recorded ++ [done.entry] := by
  rcases perform_cases setup call machine with ⟨rests, _⟩ | ⟨point, seals, same, filled, performed⟩
  · cases rests.symm.trans done.seals
  · cases seals.symm.trans done.seals
    refine ⟨_, performed.trans (seal_recorded filled done.executed done.accepted), ?_⟩
    change done.point.engine.recorded ++ _ = _
    rw [same, (resting_frame call machine).recorded]
    rfl

/-- Everything a call can do to the records and to the queues. -/
theorem perform_records {result : Except ExecError Unit}
    (returned : perform setup call machine = some (result, after)) :
    after = resting call machine ∨
    (after.engine.pending = [] ∧ after.engine.recorded = machine.engine.recorded ∧
      after.engine.metrics = machine.engine.metrics) ∨
    ∃ done : Completed setup machine call, after.engine.pending = [] ∧
      after.engine.recorded = machine.engine.recorded ++ [done.entry] ∧
      after.engine.metrics = machine.engine.metrics.record done.entry.metrics := by
  rcases perform_some returned with ⟨_, rests⟩ | ⟨point, seals, same, filled, spec⟩
  · exact .inl rests
  · have past : point.engine.recorded = machine.engine.recorded := by
      rw [same, (resting_frame call machine).recorded]
    have counted : point.engine.metrics = machine.engine.metrics := by
      rw [same, (resting_frame call machine).metrics]
    cases spec with
    | idle empty => exact absurd empty filled
    | failed _ executed rejected => exact .inr (.inl ⟨rfl, past, counted⟩)
    | recorded _ executed accepted =>
        refine .inr (.inr ⟨⟨point, _, _, _, _, _, _, seals, executed, accepted⟩, rfl, ?_, ?_⟩)
        · exact congrArg (· ++ _) past
        · exact congrArg (MetricsAggregator.record · _) counted

end Records

/-! ## The virtual clock -/

/-- The latency from the first arrival to the verification. -/
def CoversWaiting (entry : RecordedBatch) : Prop :=
  entry.metrics.endToEndLatencyMs.toNat + smallestArrival entry.transactions =
    entry.verifiedAt.toNat

def exceedsSla (slaLatencyMs : UInt64) (entry : RecordedBatch) : Bool :=
  entry.transactions.any fun tx =>
    decide (slaLatencyMs.toNat + tx.arrivalTs.toNat < entry.verifiedAt.toNat)

theorem exceeds_sla_iff {entry : RecordedBatch} (filled : entry.transactions ≠ [])
    (covers : CoversWaiting entry) (slaLatencyMs : UInt64) :
    exceedsSla slaLatencyMs entry = true ↔ slaLatencyMs < entry.metrics.endToEndLatencyMs := by
  rw [CoversWaiting] at covers
  rw [exceedsSla, List.any_eq_true, UInt64.lt_iff_toNat_lt]
  constructor
  · intro late
    rcases late with ⟨tx, member, exceeded⟩
    have first := smallest_arrival_le member
    rw [decide_eq_true_iff] at exceeded
    omega
  · intro reported
    rcases smallest_arrival_attained filled with ⟨tx, member, first⟩
    refine ⟨tx, member, ?_⟩
    rw [decide_eq_true_iff]
    omega

section Timed

variable {Policy Outside : Type} [PolicyEngine Policy]
variable {setup : Setup (VirtualClock × Outside)} {call : Call}
variable {machine after : Machine Policy (VirtualClock × Outside)}

/-- Nothing arrives before its time, and the metrics are those of the records. -/
structure Clocked (machine : Machine Policy (VirtualClock × Outside)) : Prop where
  arrived : ∀ tx ∈ machine.engine.pending, tx.arrivalTs ≤ machine.world.1.currentMs
  metrics : machine.engine.metrics.batchMetrics =
    machine.engine.recorded.map RecordedBatch.metrics
  filled : ∀ entry ∈ machine.engine.recorded, entry.transactions ≠ []

structure ReportsWaiting (setup : Setup (VirtualClock × Outside))
    (machine : Machine Policy (VirtualClock × Outside)) : Prop where
  latency : ∀ entry ∈ machine.engine.recorded, CoversWaiting entry
  violations : ∀ policyName scenarioName slaLatencyMs system,
    machine.engine.metrics.finalize setup.mode policyName scenarioName slaLatencyMs =
      some system →
    system.slaViolations = machine.engine.recorded.countP (exceedsSla slaLatencyMs)

/-- The prover and the verifier do not turn the clock back. -/
def TimePasses (setup : Setup (VirtualClock × Outside))
    (machine : Machine Policy (VirtualClock × Outside)) (call : Call) : Prop :=
  ∀ done : Completed setup machine call,
    done.point.world.1.currentMs ≤ done.proved.1.currentMs ∧
      done.proved.1.currentMs ≤ done.verified.1.currentMs

/-- A batch that goes through is sealed at the time its first transaction arrived. -/
def SealsOnArrival (setup : Setup (VirtualClock × Outside))
    (machine : Machine Policy (VirtualClock × Outside)) (call : Call) : Prop :=
  ∀ done : Completed setup machine call,
    done.point.world.1.currentMs.toNat = smallestArrival done.point.engine.pending

omit [PolicyEngine Policy] in
theorem enqueue_clock (tx : Transaction) (machine : Machine Policy (VirtualClock × Outside)) :
    machine.world.1.currentMs ≤ (enqueue tx machine).world.1.currentMs ∧
      tx.arrivalTs ≤ (enqueue tx machine).world.1.currentMs := by
  have world : (enqueue tx machine).world.1.currentMs =
      if tx.arrivalTs > machine.world.1.currentMs then tx.arrivalTs
      else machine.world.1.currentMs := by
    by_cases later : tx.arrivalTs > machine.world.1.currentMs
    · have moved : machine.world.1.currentMs + (tx.arrivalTs - machine.world.1.currentMs) =
          tx.arrivalTs := by
        rw [UInt64.add_comm, UInt64.sub_add_cancel]
      rw [if_pos later]
      unfold enqueue
      simp only [Clock.nowMs, Clock.advance, later, if_true]
      split_ifs <;> exact moved
    · rw [if_neg later]
      unfold enqueue
      split_ifs <;> simp [Clock.nowMs, later]
  rw [world]
  split_ifs with later
  · exact ⟨UInt64.le_of_lt later, UInt64.le_refl _⟩
  · exact ⟨UInt64.le_refl _, UInt64.not_lt.mp later⟩

omit [PolicyEngine Policy] in
theorem enqueue_arrived (tx : Transaction) (clocked : Clocked machine) :
    ∀ other ∈ (enqueue tx machine).engine.pending,
      other.arrivalTs ≤ (enqueue tx machine).world.1.currentMs := by
  rcases enqueue_clock tx machine with ⟨forward, reached⟩
  intro other member
  rcases mem_enqueue_pending.mp member with same | queued
  · rw [same]
    exact reached
  · exact UInt64.le_trans (clocked.arrived other queued) forward

omit [PolicyEngine Policy] in
theorem resting_clocked (call : Call) (clocked : Clocked machine) :
    Clocked (resting call machine) := by
  constructor
  case arrived =>
    cases call with
    | ingest tx => exact enqueue_arrived tx clocked
    | flush => exact clocked.arrived
  case metrics =>
    rw [(resting_frame call machine).recorded, (resting_frame call machine).metrics]
    exact clocked.metrics
  case filled =>
    rw [(resting_frame call machine).recorded]
    exact clocked.filled

theorem perform_clocked {result : Except ExecError Unit} (clocked : Clocked machine)
    (returned : perform setup call machine = some (result, after)) : Clocked after := by
  rcases perform_records returned with
    rests | ⟨empty, past, counted⟩ | ⟨done, empty, past, counted⟩
  · rw [rests]
    exact resting_clocked call clocked
  · constructor
    case arrived => simp [empty]
    case metrics => rw [past, counted, clocked.metrics]
    case filled =>
      rw [past]
      exact clocked.filled
  · constructor
    case arrived => simp [empty]
    case metrics =>
      rw [past, counted, List.map_append, ← clocked.metrics]
      rfl
    case filled =>
      intro entry member
      rw [past] at member
      rcases List.mem_append.mp member with old | new
      · exact clocked.filled entry old
      · rw [List.mem_singleton.mp new]
        exact completed_filled done

theorem completed_arrived (clocked : Clocked machine) (done : Completed setup machine call) :
    smallestArrival done.point.engine.pending ≤ done.point.world.1.currentMs.toNat := by
  have arrived : ∀ tx ∈ done.point.engine.pending,
      tx.arrivalTs ≤ done.point.world.1.currentMs := by
    have found := done.seals
    cases call with
    | ingest tx =>
        simp only [sealPoint] at found
        split_ifs at found
        rw [← Option.some.inj found]
        exact enqueue_arrived tx clocked
    | flush =>
        simp only [sealPoint] at found
        split_ifs at found
        rw [← Option.some.inj found]
        exact clocked.arrived
  rcases smallest_arrival_attained (completed_filled done) with ⟨tx, member, first⟩
  rw [← first, ← UInt64.le_iff_toNat_le]
  exact arrived tx member

theorem completed_covers_iff (clocked : Clocked machine) (done : Completed setup machine call)
    (passes : done.point.world.1.currentMs ≤ done.verified.1.currentMs) :
    CoversWaiting done.entry ↔
      done.point.world.1.currentMs.toNat = smallestArrival done.point.engine.pending := by
  have arrived := completed_arrived clocked done
  have latency : done.entry.metrics.endToEndLatencyMs.toNat =
      done.verified.1.currentMs.toNat - done.point.world.1.currentMs.toNat :=
    saturating_sub_to_nat done.verified.1.currentMs done.point.world.1.currentMs
  rw [UInt64.le_iff_toNat_le] at passes
  rw [CoversWaiting, latency]
  change _ + smallestArrival done.point.engine.pending = done.verified.1.currentMs.toNat ↔ _
  omega

omit [PolicyEngine Policy] in
theorem reports_waiting_of_latency (clocked : Clocked machine)
    (latency : ∀ entry ∈ machine.engine.recorded, CoversWaiting entry) :
    ReportsWaiting setup machine := by
  refine ⟨latency, ?_⟩
  intro policyName scenarioName slaLatencyMs system finalized
  rw [aggregate_sla_violations finalized, clocked.metrics, countSlaViolations, List.countP_map]
  apply List.countP_congr
  intro entry member
  rw [exceeds_sla_iff (clocked.filled entry member) (latency entry member)]
  exact decide_eq_true_iff

structure Timely (setup : Setup (VirtualClock × Outside))
    (machine : Machine Policy (VirtualClock × Outside)) : Prop where
  clocked : Clocked machine
  reports : ReportsWaiting setup machine

omit [PolicyEngine Policy] in
theorem new_timely (setup : Setup (VirtualClock × Outside)) (policy : Policy)
    (executor : FullExecutor) (world : VirtualClock × Outside) :
    Timely setup ⟨.new policy executor, world⟩ := by
  have clocked : Clocked ⟨Engine.new policy executor, world⟩ :=
    ⟨by simp [Engine.new, Engine.pending], rfl, by simp [Engine.new]⟩
  exact ⟨clocked, reports_waiting_of_latency clocked (by simp [Engine.new])⟩

theorem perform_timely {result : Except ExecError Unit} (timely : Timely setup machine)
    (passes : TimePasses setup machine call) (sealing : SealsOnArrival setup machine call)
    (returned : perform setup call machine = some (result, after)) : Timely setup after := by
  have clocked := perform_clocked timely.clocked returned
  refine ⟨clocked, reports_waiting_of_latency clocked ?_⟩
  rcases perform_records returned with rests | ⟨_, past, _⟩ | ⟨done, _, past, _⟩
  · rw [rests, (resting_frame call machine).recorded]
    exact timely.reports.latency
  · rw [past]
    exact timely.reports.latency
  · intro entry member
    rw [past] at member
    rcases List.mem_append.mp member with old | new
    · exact timely.reports.latency entry old
    · rw [List.mem_singleton.mp new,
        completed_covers_iff timely.clocked done (UInt64.le_trans (passes done).1 (passes done).2)]
      exact sealing done

theorem sealed_on_arrival_of_reports (clocked : Clocked machine)
    (passes : TimePasses setup machine call)
    (reports : OnceRunning (ReportsWaiting setup) (callStep setup (some machine) call)) :
    SealsOnArrival setup machine call := by
  intro done
  rcases perform_completed done with ⟨after, performed, recorded⟩
  rw [callStep, performed] at reports
  have covers := reports.latency done.entry (by simp [recorded])
  exact (completed_covers_iff clocked done
    (UInt64.le_trans (passes done).1 (passes done).2)).mp covers

end Timed

/-- Over every run on a virtual clock: the report covers the waiting time exactly when
every batch is sealed at the moment its first transaction arrives. -/
theorem latency_covers_waiting_iff_sealed_on_arrival {Policy Outside : Type}
    [PolicyEngine Policy] (setup : Setup (VirtualClock × Outside)) (policy : Policy)
    (executor : FullExecutor) (world : VirtualClock × Outside) (calls : List Call)
    (passes : EachStep (callStep setup) (some ⟨.new policy executor, world⟩) calls
      (WhileRunning (TimePasses setup))) :
    Always (callStep setup) (some ⟨.new policy executor, world⟩) calls
        (OnceRunning (ReportsWaiting setup)) ↔
      EachStep (callStep setup) (some ⟨.new policy executor, world⟩) calls
        (WhileRunning (SealsOnArrival setup)) := by
  have clocked : Always (callStep setup) (some ⟨.new policy executor, world⟩) calls
      (OnceRunning Clocked) := by
    apply once_running_always (new_timely setup policy executor world).clocked
    intro machine call result after before returned
    exact perform_clocked before returned
  constructor
  · intro reports
    have sealing : EachStep (callStep setup) (some ⟨.new policy executor, world⟩) calls
        (WhileRunning fun machine call =>
          TimePasses setup machine call → SealsOnArrival setup machine call) :=
      while_running_of_always clocked reports fun machine call before next passed =>
        sealed_on_arrival_of_reports before passed next
    exact while_running_imp passes sealing fun machine call passed seals => seals passed
  · intro sealing
    have both := while_running_imp passes sealing fun machine call passed sealed =>
      And.intro passed sealed
    have timely : Always (callStep setup) (some ⟨.new policy executor, world⟩) calls
        (OnceRunning (Timely setup)) := by
      apply once_running_of_each_step (new_timely setup policy executor world) _ both
      intro machine call result after before allowed returned
      exact perform_timely before allowed.1 allowed.2 returned
    exact once_running_imp timely fun machine here => here.reports

section Samples

def timedSetup : Setup (VirtualClock × Unit) where
  hashBytes := sampleSetup.hashBytes
  mode := sampleSetup.mode
  prove trace transactions world :=
    ((sampleSetup.prove trace transactions world.1).1,
      (sampleSetup.prove trace transactions world.1).2, ())
  verify proof trace world :=
    ((sampleSetup.verify proof trace world.1).1, (sampleSetup.verify proof trace world.1).2, ())

theorem timed_setup_passes {Policy : Type} [PolicyEngine Policy]
    {machine : Machine Policy (VirtualClock × Unit)} {call : Call}
    (early : (sealPoint call machine).all (fun point => point.world.1.currentMs ≤ 1000) = true) :
    TimePasses timedSetup machine call := by
  intro done
  rw [done.seals, Option.all_some, decide_eq_true_iff, UInt64.le_iff_toNat_le] at early
  have proves : done.point.world.1.currentMs + 50 = done.proved.1.currentMs :=
    congrArg (fun outcome => outcome.2.1.currentMs) done.accepted.prove
  have verifies : done.proved.1.currentMs + 5 = done.verified.1.currentMs :=
    congrArg (fun outcome => outcome.2.1.currentMs) done.accepted.verify
  have limit : (1000 : UInt64).toNat = 1000 := rfl
  have proving : done.proved.1.currentMs.toNat = done.point.world.1.currentMs.toNat + 50 := by
    rw [← proves, UInt64.toNat_add]
    change (_ + 50) % 2 ^ 64 = _
    omega
  have verifying : done.verified.1.currentMs.toNat = done.proved.1.currentMs.toNat + 5 := by
    rw [← verifies, UInt64.toNat_add]
    change (_ + 5) % 2 ^ 64 = _
    omega
  rw [UInt64.le_iff_toNat_le, UInt64.le_iff_toNat_le]
  omega

end Samples

/-- The second arrival seals the batch at 100 ms and it is verified at 155 ms: reported
are 55 ms, while the first transaction waited since 0 ms. -/
theorem waiting_time_is_left_out :
    EachStep (callStep timedSetup)
      (some ⟨.new (FixedCountPolicy.mk 2) (.new 200000), ⟨0⟩, ()⟩)
      [.ingest (sampleArrival "a" 0 .normal), .ingest (sampleArrival "b" 100 .normal)]
      (WhileRunning (TimePasses timedSetup)) ∧
    ¬Always (callStep timedSetup)
      (some ⟨.new (FixedCountPolicy.mk 2) (.new 200000), ⟨0⟩, ()⟩)
      [.ingest (sampleArrival "a" 0 .normal), .ingest (sampleArrival "b" 100 .normal)]
      (OnceRunning (ReportsWaiting timedSetup)) := by
  constructor
  · rw [each_step_cons, each_step_cons]
    refine ⟨timed_setup_passes (by decide +kernel), timed_setup_passes (by decide +kernel),
      each_step_nil _ _ _⟩
  · intro reports
    have last := reports 2
    have recorded : (stateAfter (callStep timedSetup)
        (some ⟨.new (FixedCountPolicy.mk 2) (.new 200000), ⟨0⟩, ()⟩)
        [.ingest (sampleArrival "a" 0 .normal), .ingest (sampleArrival "b" 100 .normal)] 2).map
          (fun machine => machine.engine.recorded.map fun entry =>
            (entry.metrics.endToEndLatencyMs.toNat, smallestArrival entry.transactions,
              entry.verifiedAt.toNat)) = some [(55, 0, 155)] := by
      decide +kernel
    rcases Option.map_eq_some_iff.mp recorded with ⟨machine, reached, entries⟩
    rw [reached] at last
    rcases List.map_eq_singleton_iff.mp entries with ⟨entry, only, values⟩
    have covers := last.latency entry (by simp [only])
    rw [CoversWaiting] at covers
    simp only [Prod.mk.injEq] at values
    omega

theorem lone_arrival_is_covered :
    Always (callStep timedSetup)
      (some ⟨.new (FixedCountPolicy.mk 1) (.new 200000), ⟨0⟩, ()⟩)
      [.ingest (sampleArrival "a" 10 .normal)] (OnceRunning (ReportsWaiting timedSetup)) := by
  apply (latency_covers_waiting_iff_sealed_on_arrival timedSetup _ _ _ _ _).mpr
  · rw [each_step_cons]
    refine ⟨?_, each_step_nil _ _ _⟩
    intro done
    have sealed : (sealPoint (.ingest (sampleArrival "a" 10 .normal))
        (Machine.mk (.new (FixedCountPolicy.mk 1) (.new 200000)) (VirtualClock.mk 0, ()))).map
          (fun point => (point.world.1.currentMs.toNat, smallestArrival point.engine.pending)) =
        some (10, 10) := by
      decide +kernel
    rw [done.seals, Option.map_some, Option.some.injEq, Prod.mk.injEq] at sealed
    exact sealed.1.trans sealed.2.symm
  · rw [each_step_cons]
    exact ⟨timed_setup_passes (by decide +kernel), each_step_nil _ _ _⟩

end CatalystSvm.LatencyReport
