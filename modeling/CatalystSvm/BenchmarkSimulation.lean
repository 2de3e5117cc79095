import CatalystSvm.ServedPipeline

/-!
# The benchmark

Transcription of `run_simulation` and `run_comparison` of
`crates/benchmark-cli/src/main.rs`: a generated workload goes through the pipeline with
the SP1 prover and verifier, one transaction at a time, and is flushed at the end. Over
a dependable SP1 the policy decides where the batches end and nothing else: whether a
simulation returns `Ok` is a property of the workload.
-/

namespace CatalystSvm.BenchmarkSimulation

open CatalystSvm.CommonTypes CatalystSvm.CommonMerkle CatalystSvm.MachineArithmetic
open CatalystSvm.BatchPolicy CatalystSvm.CommonMetrics CatalystSvm.ExecutionEngine
open CatalystSvm.ProvabilityBoundary CatalystSvm.Ingress CatalystSvm.GeneratedWorkloads
open CatalystSvm.SpendingLimits CatalystSvm.PipelineEngine CatalystSvm.PipelineRuns
open CatalystSvm.PipelineBatches CatalystSvm.ServedPipeline

set_option autoImplicit false

/-! ## A simulation -/

section Simulation

variable {Source : Type} {rng : Rng Source} {mode : OverflowMode}

theorem next_remaining {generator later : WorkloadGenerator Source} {tx : Transaction}
    (stepped : generator.next rng mode = some (some (tx, later))) :
    later.remaining < generator.remaining := by
  rw [WorkloadGenerator.next] at stepped
  by_cases finished : generator.txCount ≤ generator.generated
  · rw [if_pos finished] at stepped
    cases stepped
  · rw [if_neg finished] at stepped
    simp only [bind, Option.bind_eq_some_iff, Option.some.injEq, Prod.mk.injEq] at stepped
    obtain ⟨_, _, _, _, _, advanced⟩ := stepped
    rw [← advanced]
    simp only [WorkloadGenerator.remaining]
    omega

def ingestWorkload {Policy World : Type} [PolicyEngine Policy] [Clock World]
    (setup : Setup World) (rng : Rng Source) (workload : WorkloadGenerator Source)
    (machine : Machine Policy World) : Option (Outcome Policy World) :=
  match _ : workload.next rng setup.mode with
  | none => none
  | some none => some (.ok (), machine)
  | some (some (tx, later)) =>
      match ingest setup tx machine with
      | some (.ok (), next) => ingestWorkload setup rng later next
      | stopped => stopped
  termination_by workload.remaining
  decreasing_by exact next_remaining (by assumption)

/-- The generator draws nothing from the pipeline: the transactions may as well be
collected first. -/
theorem ingest_workload_eq {Policy World : Type} [PolicyEngine Policy] [Clock World]
    (setup : Setup World) {workload : WorkloadGenerator Source} {fuel : Nat}
    {transactions : List Transaction}
    (collected : workload.collect rng setup.mode fuel = some transactions)
    (machine : Machine Policy World) :
    ingestWorkload setup rng workload machine = ingestAll setup transactions machine := by
  induction fuel generalizing workload transactions machine with
  | zero => cases collected
  | succ fuel ih =>
      rw [ingestWorkload]
      split
      case h_1 panics => simp [WorkloadGenerator.collect, panics] at collected
      case h_2 finished =>
        simp only [WorkloadGenerator.collect, finished, bind, Option.bind_some,
          Option.some.injEq] at collected
        rw [← collected]
        rfl
      case h_3 tx later stepped =>
        simp only [WorkloadGenerator.collect, stepped, bind, Option.bind_some,
          Option.bind_eq_some_iff, Option.some.injEq] at collected
        obtain ⟨rest, continued, same⟩ := collected
        rw [← same, ingestAll]
        cases ingest setup tx machine with
        | none => rfl
        | some outcome =>
            obtain ⟨result, next⟩ := outcome
            cases result with
            | error error => rfl
            | ok done => exact ih continued next

variable {Outside : Type}

/-- `run_simulation`; `flush` ends within its second round. The world is the virtual clock
and whatever the services depend on. -/
def runSimulation (setup : Setup (VirtualClock × Outside)) (rng : Rng Source)
    (policyName : String) (scenario : Scenario) (seed : UInt64) (txCount : Nat)
    (config : PolicyConfig) (slaLatencyMs : UInt64) (outside : Outside) :
    Option (Except ExecError SystemMetrics × Outside) := do
  let policy := createPolicy policyName config
  let engine := Engine.new policy (FullExecutor.new 200000)
  let workload := WorkloadGenerator.new rng scenario txCount seed 50
  match ← ingestWorkload setup rng workload ⟨engine, ⟨0⟩, outside⟩ with
  | (.error error, machine) => some (.error error, machine.world.2)
  | (.ok (), machine) =>
      match ← perform setup .flush machine with
      | (.error error, machine) => some (.error error, machine.world.2)
      | (.ok (), machine) => do
          let metrics ← machine.engine.metrics.finalize setup.mode policyName scenario.name
            slaLatencyMs
          some (.ok metrics, machine.world.2)

def Flushed (setup : Setup (VirtualClock × Outside)) (rng : Rng Source) (policyName : String)
    (scenario : Scenario) (seed : UInt64) (txCount : Nat) (config : PolicyConfig)
    (outside : Outside) (machine : Machine DynPolicy (VirtualClock × Outside)) : Prop :=
  ∃ ingested, ingestWorkload setup rng (.new rng scenario txCount seed 50)
      ⟨.new (createPolicy policyName config) (.new 200000), ⟨0⟩, outside⟩ =
        some (.ok (), ingested) ∧
    perform setup .flush ingested = some (.ok (), machine)

inductive Simulated (setup : Setup (VirtualClock × Outside)) (workload : List Transaction)
    (policyName scenarioName : String) (slaLatencyMs : UInt64)
    (Last : Machine DynPolicy (VirtualClock × Outside) → Prop) :
    Option (Except ExecError SystemMetrics × Outside) → Prop where
  | completed {machine : Machine DynPolicy (VirtualClock × Outside)} (last : Last machine)
      (recorded : Recorded setup workload machine.engine) :
      Simulated setup workload policyName scenarioName slaLatencyMs Last
        ((machine.engine.metrics.finalize setup.mode policyName scenarioName slaLatencyMs).map
          fun metrics => (.ok metrics, machine.world.2))
  | refused (reason : String) (outside : Outside)
      (unknown : ∃ tx ∈ workload, unknownOpcode tx = true) :
      Simulated setup workload policyName scenarioName slaLatencyMs Last
        (some (.error (refusal reason), outside))

theorem simulation_ends {setup : Setup (VirtualClock × Outside)} {sp1 : Sp1}
    {guestMode : OverflowMode} (served : ServedBy setup sp1)
    (dependable : Dependable setup.hashBytes guestMode sp1)
    {scenario : Scenario} {seed : UInt64} {txCount fuel : Nat} {workload : List Transaction}
    (collected : (WorkloadGenerator.new rng scenario txCount seed 50).collect rng setup.mode fuel =
      some workload)
    (payable : Payable workload) (policyName : String) (config : PolicyConfig)
    (slaLatencyMs : UInt64) (outside : Outside) :
    Simulated setup workload policyName scenario.name slaLatencyMs
      (Flushed setup rng policyName scenario seed txCount config outside)
      (runSimulation setup rng policyName scenario seed txCount config slaLatencyMs outside) := by
  let engine := Engine.new (createPolicy policyName config) (.new 200000)
  have ingested := @ingest_all_ends _ _ _ _ _ _ ⟨engine, ⟨0⟩, outside⟩ [] _ served dependable
    workload payable (new_ingested setup _)
  rw [List.nil_append, ← ingest_workload_eq setup collected] at ingested
  simp only [runSimulation]
  generalize loopEq : ingestWorkload setup rng (WorkloadGenerator.new rng scenario txCount seed 50)
    ⟨engine, ⟨0⟩, outside⟩ = looped at ingested
  cases ingested with
  | refused reason unknown => exact .refused reason _ unknown
  | @ok machine good =>
      have flushed := flush_ends served dependable payable good
      simp only [bind, Option.bind_some]
      generalize lastEq : perform setup .flush machine = last at flushed
      cases flushed with
      | refused reason unknown => exact .refused reason _ unknown
      | @ok final recorded =>
          have completed : Simulated setup workload policyName scenario.name slaLatencyMs
              (Flushed setup rng policyName scenario seed txCount config outside)
              ((final.engine.metrics.finalize setup.mode policyName scenario.name
                slaLatencyMs).map fun metrics => (.ok metrics, final.world.2)) :=
            .completed ⟨machine, loopEq, lastEq⟩ recorded
          simp only [Option.bind_some]
          cases summed : final.engine.metrics.finalize setup.mode policyName scenario.name
              slaLatencyMs with
          | none =>
              rw [summed] at completed
              exact completed
          | some metrics =>
              rw [summed] at completed
              exact completed

theorem aggregate_counts {metrics : List BatchMetrics} {policyName scenarioName : String}
    {slaLatencyMs : UInt64} {system : SystemMetrics}
    (aggregated : aggregateMetrics mode metrics policyName scenarioName slaLatencyMs =
      some system) :
    system.policyName = policyName ∧ system.scenarioName = scenarioName ∧
      system.totalTransactions = (metrics.map BatchMetrics.batchSize).sum ∧
      system.totalBatches = metrics.length := by
  unfold aggregateMetrics at aggregated
  split_ifs at aggregated with empty
  · cases aggregated
    rw [List.isEmpty_iff.mp empty]
    exact ⟨rfl, rfl, rfl, rfl⟩
  · simp only [bind, Option.bind_eq_some_iff] at aggregated
    obtain ⟨_, _, _, _, _, _, result⟩ := aggregated
    cases result
    exact ⟨rfl, rfl, rfl, rfl⟩

theorem aggregate_wrapping (metrics : List BatchMetrics) (policyName scenarioName : String)
    (slaLatencyMs : UInt64) :
    ∃ system, aggregateMetrics .wrapping metrics policyName scenarioName slaLatencyMs =
      some system := by
  unfold aggregateMetrics
  split_ifs with empty
  · exact ⟨_, rfl⟩
  · obtain ⟨proofSize, sized⟩ :=
      accumulate_wrapping_total 0 (metrics.map BatchMetrics.proofSizeBytes)
    obtain ⟨compute, computed⟩ :=
      accumulate_wrapping_total 0 (metrics.map BatchMetrics.totalComputeUsed)
    obtain ⟨execution, executed⟩ :=
      accumulate_wrapping_total 0 (metrics.map BatchMetrics.executionTimeMs)
    have overheads : (metrics.mapM fun batch =>
        addU64 .wrapping batch.provingTimeMs batch.verificationTimeMs) =
          some (metrics.map fun batch => batch.provingTimeMs + batch.verificationTimeMs) :=
      List.mapM_pure
    obtain ⟨overhead, added⟩ := accumulate_wrapping_total 0
      (metrics.map fun batch => batch.provingTimeMs + batch.verificationTimeMs)
    obtain ⟨efficiency, rated⟩ : ∃ efficiency,
        computeBatchEfficiency .wrapping metrics = some efficiency := by
      simp only [computeBatchEfficiency, if_neg empty, bind, executed, overheads, added,
        Option.bind_some]
      split_ifs
      · exact ⟨_, rfl⟩
      · exact ⟨_, rfl⟩
    simp only [bind, sized, computed, rated, Option.bind_some]
    exact ⟨_, rfl⟩

/-- What a simulation that returns `Ok` has done with its workload. -/
structure Completed {World : Type} (setup : Setup World) (workload : List Transaction)
    (policyName scenarioName : String) (slaLatencyMs : UInt64) (metrics : SystemMetrics)
    (engine : Engine DynPolicy) (segments : List (List Transaction)) : Prop where
  cut : workload = segments.flatten
  filled : ∀ segment ∈ segments, segment ≠ []
  records : RecordsSegments setup engine segments
  verified : ∀ entry ∈ engine.recorded, entry.metrics.verificationPassed = true
  summed : engine.metrics.finalize setup.mode policyName scenarioName slaLatencyMs = some metrics
  policy : metrics.policyName = policyName
  scenario : metrics.scenarioName = scenarioName
  transactions : metrics.totalTransactions = workload.length
  batches : metrics.totalBatches = segments.length

theorem recorded_completed {World : Type} {setup : Setup World} {workload : List Transaction}
    {engine : Engine DynPolicy} {policyName scenarioName : String} {slaLatencyMs : UInt64}
    {metrics : SystemMetrics} (recorded : Recorded setup workload engine)
    (summed : engine.metrics.finalize setup.mode policyName scenarioName slaLatencyMs =
      some metrics) :
    ∃ segments,
      Completed setup workload policyName scenarioName slaLatencyMs metrics engine segments := by
  obtain ⟨segments, progress⟩ := recorded
  have part := progress.part
  have stream := part.stream
  rw [List.append_nil] at stream
  obtain ⟨policy, scenario, transactions, batches⟩ := aggregate_counts summed
  have sizes := partitioned_sizes part
  rw [MetricsAggregator.batchSizes] at sizes
  rw [sizes, ← List.length_flatten, ← stream] at transactions
  rw [(partitioned_records part).count] at batches
  exact ⟨segments, stream, part.filled, partitioned_records part, progress.verified, summed,
    policy, scenario, transactions, batches⟩

theorem recorded_known {Policy World : Type} {setup : Setup World} {workload : List Transaction}
    {engine : Engine Policy} (recorded : Recorded setup workload engine) :
    ∀ tx ∈ workload, unknownOpcode tx = false := by
  obtain ⟨segments, progress⟩ := recorded
  intro tx member
  apply progress.known
  rwa [progress.part.stream, List.append_nil] at member

end Simulation

/-- Over a dependable SP1 every policy gives a simulation the same outcome. A workload in
which no sender comes up more than 1001 times fails with the prover's error when it holds
an unknown opcode. Otherwise no error comes back, and the machine that is flushed at the end
has recorded consecutive segments of the workload as batches that are all executed, proved,
verified and counted. -/
theorem simulation_outcome_is_the_workloads {Source Outside : Type} (rng : Rng Source)
    (setup : Setup (VirtualClock × Outside)) (sp1 : Sp1) (guestMode : OverflowMode)
    (served : ServedBy setup sp1) (dependable : Dependable setup.hashBytes guestMode sp1)
    (scenario : Scenario)
    (seed : UInt64) (txCount : Nat)
    (fits : TimesFit rng setup.mode txCount (.new rng scenario txCount seed 50)) :
    ∃ workload,
      (∀ fuel, txCount < fuel →
        (WorkloadGenerator.new rng scenario txCount seed 50).collect rng setup.mode fuel =
          some workload) ∧
      workload.length = txCount ∧
      ((∀ sender, (workload.countP fun tx => tx.sender = sender) ≤ 1001) →
        ∀ policyName config slaLatencyMs outside,
        ((∃ tx ∈ workload, unknownOpcode tx = true) → ∃ reason after,
          runSimulation setup rng policyName scenario seed txCount config slaLatencyMs outside =
            some (.error (refusal reason), after)) ∧
        ((∀ tx ∈ workload, unknownOpcode tx = false) →
          (setup.mode = .wrapping → ∃ metrics after,
            runSimulation setup rng policyName scenario seed txCount config slaLatencyMs
              outside = some (.ok metrics, after)) ∧
          ∀ result after,
            runSimulation setup rng policyName scenario seed txCount config slaLatencyMs
              outside = some (result, after) →
            ∃ metrics machine segments, result = .ok metrics ∧ after = machine.world.2 ∧
              Flushed setup rng policyName scenario seed txCount config outside machine ∧
              Completed setup workload policyName scenario.name slaLatencyMs metrics
                machine.engine segments)) := by
  obtain ⟨workload, collected, names, -, -⟩ :=
    @collect_workload _ rng setup.mode (.new rng scenario txCount seed 50) txCount
      (show (50 : UInt64).toNat < 2 ^ 62 by decide) rfl fits
  have whole := collected (txCount + 1) (Nat.lt_succ_self txCount)
  refine ⟨workload, collected, ?_, ?_⟩
  · have counted := congrArg List.length names
    simpa [namesFrom] using counted
  · intro modest policyName config slaLatencyMs outside
    have payable := generated_payable (collect_generated whole) modest
    have ends := simulation_ends served dependable whole payable policyName config slaLatencyMs
      outside
    generalize runSimulation setup rng policyName scenario seed txCount config slaLatencyMs
      outside = outcome at ends
    constructor
    · intro unknown
      cases ends with
      | refused reason after _ => exact ⟨reason, after, rfl⟩
      | completed last recorded =>
          obtain ⟨tx, member, divergent⟩ := unknown
          rw [recorded_known recorded tx member] at divergent
          cases divergent
    · intro known
      cases ends with
      | refused reason after unknown =>
          obtain ⟨tx, member, divergent⟩ := unknown
          rw [known tx member] at divergent
          cases divergent
      | @completed machine flushed recorded =>
          constructor
          · intro release
            obtain ⟨metrics, summed⟩ := aggregate_wrapping machine.engine.metrics.batchMetrics
              policyName scenario.name slaLatencyMs
            rw [MetricsAggregator.finalize, release, summed]
            exact ⟨metrics, _, rfl⟩
          · intro result after returned
            obtain ⟨metrics, summed, same⟩ := Option.map_eq_some_iff.mp returned
            obtain ⟨segments, completed⟩ := recorded_completed recorded summed
            exact ⟨metrics, machine, segments, (Prod.mk.inj same).1.symm,
              (Prod.mk.inj same).2.symm, flushed, completed⟩

section Samples

/-- Proving takes 50 ms and verifying 5. -/
def replaySetup (hashBytes : HashBytes) (mode : OverflowMode) : Setup (VirtualClock × Unit) where
  hashBytes := hashBytes
  mode := mode
  prove trace transactions world :=
    let proved := Clock.advance world 50
    (ProverInputs.prove hashBytes (replaySp1 hashBytes mode).prove 50 (Clock.nowMs proved).1 trace
      transactions, proved)
  verify proof trace world :=
    ((ProofVerifier.verify (replaySp1 hashBytes mode).sdk 5 proof trace).getD
      (.error (.verificationFailed "")), Clock.advance world 5)

theorem replay_setup_served (hashBytes : HashBytes) (mode : OverflowMode) :
    ServedBy (replaySetup hashBytes mode) (replaySp1 hashBytes mode) where
  prove trace transactions world := ⟨50, _, rfl⟩
  verify proof trace world := by
    refine ⟨5, ?_⟩
    intro result verified
    simp only [replaySetup, verified, Option.getD_some]

def benchmarkConfig : PolicyConfig where
  countThreshold := 100
  timeThresholdMs := 500
  latencyBudgetMs := 1000
  maxBatchSize := 500
  criticalThreshold := 5

/-- The workload of seed 3: an increment, then an unknown opcode. -/
def seedThree (txCount : Nat) : WorkloadGenerator Nat := .new countingRng .steady txCount 3 50

theorem seed_three_times_fit : TimesFit countingRng .wrapping 2 (seedThree 2) := by
  constructor
  · intro delta priority source computed
    cases computed
    decide
  · intro tx later stepped
    cases stepped
    constructor
    · intro delta priority source computed
      cases computed
      decide
    · intro tx later stepped
      trivial

end Samples

theorem unknown_opcode_ends_the_simulation :
    ∃ reason after, runSimulation (replaySetup sampleDigest .wrapping) countingRng "hybrid" .steady
      3 2 benchmarkConfig 1000 () = some (.error (refusal reason), after) := by
  obtain ⟨workload, collected, count, outcome⟩ :=
    simulation_outcome_is_the_workloads countingRng (replaySetup sampleDigest .wrapping)
      (replaySp1 sampleDigest .wrapping) .wrapping (replay_setup_served _ _)
      (replay_sp1_dependable _ _) .steady 3 2 seed_three_times_fit
  have held : ((seedThree 2).collect countingRng .wrapping 3).map
      (fun transactions => transactions.any unknownOpcode) = some true := by decide +kernel
  have modest (sender : String) : (workload.countP fun tx => tx.sender = sender) ≤ 1001 := by
    have most := @List.countP_le_length _ (fun tx : Transaction => decide (tx.sender = sender))
      workload
    omega
  apply (outcome modest "hybrid" benchmarkConfig 1000 ()).1
  have known := collected 3 (by decide)
  change (seedThree 2).collect countingRng .wrapping 3 = some workload at known
  rw [known, Option.map_some, Option.some.injEq, List.any_eq_true] at held
  exact held

/-! ## The comparison -/

section Comparison

variable {Source Outside : Type}

/-- The two loops of `run_comparison`: policies outside, scenarios inside. -/
def comparisonCases : List (String × Scenario) :=
  ["fixedcount", "fixedtime", "hybrid", "adaptive"].flatMap fun policyName =>
    Scenario.all.map fun scenario => (policyName, scenario)

def runCases (setup : Setup (VirtualClock × Outside)) (rng : Rng Source) (seed : UInt64)
    (txCount : Nat) (config : PolicyConfig) (slaLatencyMs : UInt64) :
    List (String × Scenario) → Outside → Option (Except ExecError (List SystemMetrics) × Outside)
  | [], outside => some (.ok [], outside)
  | (policyName, scenario) :: rest, outside => do
      match ← runSimulation setup rng policyName scenario seed txCount config slaLatencyMs
          outside with
      | (.error error, outside) => some (.error error, outside)
      | (.ok metrics, outside) =>
          match ← runCases setup rng seed txCount config slaLatencyMs rest outside with
          | (.error error, outside) => some (.error error, outside)
          | (.ok results, outside) => some (.ok (metrics :: results), outside)

def runComparison (setup : Setup (VirtualClock × Outside)) (rng : Rng Source) (seed : UInt64)
    (txCount : Nat) (config : PolicyConfig) (slaLatencyMs : UInt64) (outside : Outside) :
    Option (Except ExecError (List SystemMetrics) × Outside) :=
  runCases setup rng seed txCount config slaLatencyMs comparisonCases outside

def caseRow (workloads : Scenario → List Transaction) (pair : String × Scenario) :
    String × String × Nat :=
  (pair.1, pair.2.name, (workloads pair.2).length)

def metricsRow (metrics : SystemMetrics) : String × String × Nat :=
  (metrics.policyName, metrics.scenarioName, metrics.totalTransactions)

variable {setup : Setup (VirtualClock × Outside)} {rng : Rng Source} {seed : UInt64}
variable {txCount : Nat} {config : PolicyConfig} {slaLatencyMs : UInt64}
variable {workloads : Scenario → List Transaction}

inductive Compared (setup : Setup (VirtualClock × Outside))
    (workloads : Scenario → List Transaction) (cases : List (String × Scenario)) :
    Option (Except ExecError (List SystemMetrics) × Outside) → Prop where
  | panicked (checked : setup.mode = .panicking) : Compared setup workloads cases none
  | completed {results : List SystemMetrics} {outside : Outside}
      (rows : results.map metricsRow = cases.map (caseRow workloads))
      (known : ∀ pair ∈ cases, ∀ tx ∈ workloads pair.2, unknownOpcode tx = false) :
      Compared setup workloads cases (some (.ok results, outside))
  | refused {outside : Outside} (reason : String)
      (unknown : ∃ pair ∈ cases, ∃ tx ∈ workloads pair.2, unknownOpcode tx = true) :
      Compared setup workloads cases (some (.error (refusal reason), outside))

theorem run_cases_compared
    (each : ∀ policyName scenario outside,
      Simulated setup (workloads scenario) policyName scenario.name slaLatencyMs
        (Flushed setup rng policyName scenario seed txCount config outside)
        (runSimulation setup rng policyName scenario seed txCount config slaLatencyMs outside))
    (cases : List (String × Scenario)) (outside : Outside) :
    Compared setup workloads cases
      (runCases setup rng seed txCount config slaLatencyMs cases outside) := by
  induction cases generalizing outside with
  | nil => exact .completed rfl (by simp)
  | cons pair rest ih =>
      obtain ⟨policyName, scenario⟩ := pair
      have first := each policyName scenario outside
      rw [runCases]
      generalize runSimulation setup rng policyName scenario seed txCount config slaLatencyMs
        outside = outcome at first
      cases first with
      | refused reason after unknown =>
          exact .refused reason ⟨(policyName, scenario), List.mem_cons_self, unknown⟩
      | @completed machine last recorded =>
          cases summed : machine.engine.metrics.finalize setup.mode policyName scenario.name
              slaLatencyMs with
          | none =>
              apply Compared.panicked
              cases mode : setup.mode with
              | panicking => rfl
              | wrapping =>
                  obtain ⟨metrics, total⟩ := aggregate_wrapping
                    machine.engine.metrics.batchMetrics policyName scenario.name slaLatencyMs
                  rw [MetricsAggregator.finalize, mode, total] at summed
                  cases summed
          | some metrics =>
              have further := ih machine.world.2
              simp only [Option.map_some, bind, Option.bind_some]
              generalize runCases setup rng seed txCount config slaLatencyMs rest
                machine.world.2 = others at further
              obtain ⟨segments, completed⟩ := recorded_completed recorded summed
              cases further with
              | panicked checked => exact .panicked checked
              | refused reason unknown =>
                  obtain ⟨pair, member, divergent⟩ := unknown
                  exact .refused reason ⟨pair, List.mem_cons_of_mem _ member, divergent⟩
              | completed rows known =>
                  apply Compared.completed
                  · rw [List.map_cons, List.map_cons, rows, metricsRow, completed.policy,
                      completed.scenario, completed.transactions]
                    rfl
                  · intro pair member
                    cases List.mem_cons.mp member with
                    | inl same =>
                        rw [same]
                        exact recorded_known recorded
                    | inr listed => exact known pair listed

theorem scenario_compared (scenario : Scenario) :
    ∃ policyName, (policyName, scenario) ∈ comparisonCases := by
  refine ⟨"hybrid", ?_⟩
  cases scenario <;> decide

end Comparison

/-- The comparison is all or nothing: over a dependable SP1 it returns the twenty rows of
its table, each over the whole workload of its scenario, when no workload holds an unknown
opcode, and otherwise the prover's error. -/
theorem comparison_is_all_or_nothing {Source Outside : Type} (rng : Rng Source)
    (setup : Setup (VirtualClock × Outside)) (sp1 : Sp1) (guestMode : OverflowMode)
    (served : ServedBy setup sp1) (dependable : Dependable setup.hashBytes guestMode sp1)
    (seed : UInt64) (txCount : Nat)
    (fits : ∀ scenario, TimesFit rng setup.mode txCount (.new rng scenario txCount seed 50)) :
    ∃ workloads : Scenario → List Transaction,
      (∀ scenario fuel, txCount < fuel →
        (WorkloadGenerator.new rng scenario txCount seed 50).collect rng setup.mode fuel =
          some (workloads scenario)) ∧
      (∀ scenario, (workloads scenario).length = txCount) ∧
      ((∀ scenario sender, ((workloads scenario).countP fun tx => tx.sender = sender) ≤ 1001) →
        ∀ config slaLatencyMs outside,
        (setup.mode = .wrapping →
          (runComparison setup rng seed txCount config slaLatencyMs outside).isSome = true) ∧
        ∀ result after,
          runComparison setup rng seed txCount config slaLatencyMs outside = some (result, after) →
          ((∀ scenario, ∀ tx ∈ workloads scenario, unknownOpcode tx = false) ∧
            ∃ results, result = .ok results ∧
              results.map metricsRow =
                comparisonCases.map fun pair => (pair.1, pair.2.name, txCount)) ∨
          ((∃ scenario, ∃ tx ∈ workloads scenario, unknownOpcode tx = true) ∧
            ∃ reason, result = .error (refusal reason))) := by
  have each (scenario : Scenario) : ∃ workload,
      (∀ fuel, txCount < fuel →
        (WorkloadGenerator.new rng scenario txCount seed 50).collect rng setup.mode fuel =
          some workload) ∧ workload.length = txCount := by
    obtain ⟨workload, collected, names, -, -⟩ :=
      @collect_workload _ rng setup.mode (.new rng scenario txCount seed 50) txCount
        (show (50 : UInt64).toNat < 2 ^ 62 by decide) rfl (fits scenario)
    have counted := congrArg List.length names
    exact ⟨workload, collected, by simpa [namesFrom] using counted⟩
  choose workloads facts using each
  refine ⟨workloads, fun scenario => (facts scenario).1, fun scenario => (facts scenario).2, ?_⟩
  intro modest config slaLatencyMs outside
  have simulated (policyName : String) (scenario : Scenario) (start : Outside) :
      Simulated setup (workloads scenario) policyName scenario.name slaLatencyMs
        (Flushed setup rng policyName scenario seed txCount config start)
        (runSimulation setup rng policyName scenario seed txCount config slaLatencyMs start) := by
    have whole := (facts scenario).1 (txCount + 1) (Nat.lt_succ_self txCount)
    have payable := generated_payable (collect_generated whole) (modest scenario)
    exact simulation_ends served dependable whole payable policyName config slaLatencyMs start
  have compared := run_cases_compared simulated comparisonCases outside
  rw [runComparison]
  generalize runCases setup rng seed txCount config slaLatencyMs comparisonCases outside = ended
    at compared
  constructor
  · intro release
    cases compared with
    | panicked checked =>
        rw [release] at checked
        cases checked
    | completed rows known => rfl
    | refused reason unknown => rfl
  · intro result after returned
    cases compared with
    | panicked checked => cases returned
    | refused reason unknown =>
        cases returned
        obtain ⟨pair, _, divergent⟩ := unknown
        exact .inr ⟨⟨pair.2, divergent⟩, reason, rfl⟩
    | @completed results last rows known =>
        cases returned
        refine .inl ⟨?_, results, rfl, ?_⟩
        · intro scenario
          obtain ⟨policyName, listed⟩ := scenario_compared scenario
          exact known _ listed
        · rw [rows]
          apply List.map_congr_left
          intro pair _
          rw [caseRow, (facts pair.2).2]

theorem single_times_fit (scenario : Scenario) :
    TimesFit countingRng .wrapping 1 (.new countingRng scenario 1 3 50) := by
  constructor
  · intro delta priority source computed
    cases scenario with
    | poisson =>
        cases computed
        decide +kernel
    | idleThenSpike =>
        simp only [WorkloadGenerator.computeArrival, WorkloadGenerator.new] at computed
        split_ifs at computed
        · cases computed
          decide
        · cases computed
          decide
    | _ =>
        cases computed
        decide
  · intro tx later stepped
    trivial

theorem single_known (scenario : Scenario) :
    ((WorkloadGenerator.new countingRng scenario 1 3 50).collect countingRng .wrapping 2).map
      (fun transactions => transactions.any unknownOpcode) = some false := by
  cases scenario <;> decide +kernel

theorem one_transaction_is_compared :
    ∃ results after, runComparison (replaySetup sampleDigest .wrapping) countingRng 3 1
      benchmarkConfig 200 () = some (.ok results, after) ∧
        results.map metricsRow = comparisonCases.map fun pair => (pair.1, pair.2.name, 1) := by
  obtain ⟨workloads, collected, counts, outcome⟩ :=
    comparison_is_all_or_nothing countingRng (replaySetup sampleDigest .wrapping)
      (replaySp1 sampleDigest .wrapping) .wrapping (replay_setup_served _ _)
      (replay_sp1_dependable _ _) 3 1 single_times_fit
  have modest (scenario : Scenario) (sender : String) :
      ((workloads scenario).countP fun tx => tx.sender = sender) ≤ 1001 := by
    have most := @List.countP_le_length _ (fun tx : Transaction => decide (tx.sender = sender))
      (workloads scenario)
    rw [counts scenario] at most
    omega
  obtain ⟨returns, described⟩ := outcome modest benchmarkConfig 200 ()
  obtain ⟨⟨result, after⟩, ran⟩ := Option.isSome_iff_exists.mp (returns rfl)
  cases described result after ran with
  | inl completed =>
      obtain ⟨_, results, made, rows⟩ := completed
      rw [made] at ran
      exact ⟨results, after, ran, rows⟩
  | inr refused =>
      obtain ⟨⟨scenario, tx, member, unknown⟩, _⟩ := refused
      have known := single_known scenario
      have whole : (WorkloadGenerator.new countingRng scenario 1 3 50).collect countingRng
          .wrapping 2 = some (workloads scenario) := collected scenario 2 (by decide)
      rw [whole, Option.map_some, Option.some.injEq, List.any_eq_false] at known
      exact absurd unknown (known tx member)

end CatalystSvm.BenchmarkSimulation
