import CatalystSvm.ContinuityRuns
import CatalystSvm.PipelineFailures

/-!
# Accounts of a pipeline that goes on after errors

A caller may go on calling an engine that has returned an error. Every seal is an
attempt with everything queued at that time: it ends in a recorded batch or in the
error that the call returned. The attempts, in order, and the queues make up the
whole stream; batch ids count the attempts, so that a failed one leaves a gap.
-/

namespace CatalystSvm.PipelineAttempts

open CatalystSvm.CommonTypes CatalystSvm.MachineArithmetic CatalystSvm.BatchPolicy
open CatalystSvm.CommonMetrics
open CatalystSvm.IssuedIds CatalystSvm.ExecutionEngine CatalystSvm.PipelineEngine
open CatalystSvm.PipelineRuns CatalystSvm.PipelineFailures
open CatalystSvm.ContinuityRuns (ingested ingested_cons Queued resting_queued)

set_option autoImplicit false

def errorOf {Error Value : Type} : Except Error Value → Option Error
  | .ok _ => none
  | .error error => some error

/-- One seal: the transactions as they had arrived, and what became of them. -/
structure Attempt where
  arrived : List Transaction
  outcome : Except ExecError RecordedBatch

def Attempt.lost (attempt : Attempt) : List Transaction :=
  match attempt.outcome with
  | .ok _ => []
  | .error _ => attempt.arrived

def performAll {Policy World : Type} [PolicyEngine Policy] [Clock World] (setup : Setup World) :
    List Call → Machine Policy World → Option (List (Except ExecError Unit) × Machine Policy World)
  | [], machine => some ([], machine)
  | call :: rest, machine => do
      let (result, next) ← perform setup call machine
      let (results, last) ← performAll setup rest next
      some (result :: results, last)

structure Described {World : Type} (setup : Setup World) (executor : FullExecutor) (index : Nat)
    (attempt : Attempt) : Prop where
  filled : attempt.arrived ≠ []
  transactions : ∀ entry, attempt.outcome = .ok entry →
    entry.transactions = priorityFirst attempt.arrived
  batchId : ∀ entry, attempt.outcome = .ok entry →
    entry.batch.batchId = formatBatchId (UInt64.ofNat (index + 1))
  consistent : ∀ entry, attempt.outcome = .ok entry → Consistent setup executor entry

/-- The stream and the results so far, told by attempts and what is queued after them. -/
structure Accounted {Policy World : Type} (setup : Setup World) (arrivals : List Transaction)
    (results : List (Except ExecError Unit)) (attempts : List Attempt) (rest : List Transaction)
    (engine : Engine Policy) : Prop where
  stream : arrivals = (attempts.map Attempt.arrived).flatten ++ rest
  described : ∀ index attempt, attempts[index]? = some attempt →
    Described setup engine.executor index attempt
  recorded : engine.recorded = attempts.filterMap fun attempt => attempt.outcome.toOption
  errors : results.filterMap errorOf = attempts.filterMap fun attempt => errorOf attempt.outcome
  metrics : engine.metrics.batchMetrics = engine.recorded.map RecordedBatch.metrics
  counter : engine.batchCounter = UInt64.ofNat attempts.length
  queued : Queued rest engine

section Accounts

variable {Policy World : Type} [Clock World] {setup : Setup World}
variable {arrivals rest : List Transaction} {results : List (Except ExecError Unit)}
variable {attempts : List Attempt} {machine after : Machine Policy World} {call : Call}

omit [Clock World] in
theorem new_accounted (setup : Setup World) (policy : Policy) (executor : FullExecutor) :
    Accounted setup [] [] [] [] (Engine.new policy executor) where
  stream := rfl
  described := fun _ _ found => (nomatch found)
  recorded := rfl
  errors := rfl
  metrics := rfl
  counter := rfl
  queued := ⟨rfl, rfl⟩

omit [Clock World] in
theorem accounted_pending
    (account : Accounted setup arrivals results attempts rest machine.engine) :
    machine.engine.pending = priorityFirst rest := by
  rw [Engine.pending, account.queued.lane, account.queued.queue]
  rfl

theorem resting_accounted (call : Call)
    (account : Accounted setup arrivals results attempts rest machine.engine) :
    Accounted setup (arrivals ++ ingested [call]) results attempts (rest ++ ingested [call])
      (resting call machine).engine := by
  have queued := resting_queued call account.queued
  cases call with
  | flush =>
      simp only [ingested, List.append_nil]
      exact account
  | ingest tx =>
      change Accounted setup (arrivals ++ [tx]) results attempts (rest ++ [tx])
        (enqueue tx machine).engine
      change Queued (rest ++ [tx]) (enqueue tx machine).engine at queued
      rw [enqueue_engine] at queued ⊢
      exact { account with
        stream := by rw [account.stream, List.append_assoc]
        queued := queued }

omit [Clock World] in
theorem attempt_described {executor : FullExecutor} {attempt : Attempt}
    (described : ∀ index attempt, attempts[index]? = some attempt →
      Described setup executor index attempt)
    (last : Described setup executor attempts.length attempt) :
    ∀ index other, (attempts ++ [attempt])[index]? = some other →
      Described setup executor index other := by
  intro index other found
  obtain before | same | beyond := Nat.lt_trichotomy index attempts.length
  · rw [List.getElem?_append_left before] at found
    exact described index other found
  · rw [same, List.getElem?_concat_length] at found
    cases found
    rw [same]
    exact last
  · have outside : (attempts ++ [attempt])[index]? = none := by
      rw [List.getElem?_eq_none_iff, List.length_append, List.length_singleton]
      omega
    cases outside.symm.trans found

variable [PolicyEngine Policy] {counter : UInt64} {trace : ExecutionTrace}

omit [PolicyEngine Policy] in
theorem failed_accounted (filled : machine.engine.pending ≠ [])
    (executed : Executes setup machine counter trace) (error : ExecError)
    (account : Accounted setup arrivals results attempts rest machine.engine) :
    Accounted setup arrivals (results ++ [.error error]) (attempts ++ [⟨rest, .error error⟩]) []
      (drain machine.engine counter) := by
  have arrived : rest ≠ [] := by
    rwa [accounted_pending account, Ne, priority_first_eq_nil_iff] at filled
  have counted := add_u64_one account.counter executed.1
  constructor
  case stream => simp [account.stream]
  case described =>
    refine attempt_described account.described ⟨arrived, ?_, ?_, ?_⟩
    all_goals
      intro entry recorded
      cases recorded
  case recorded =>
    rw [List.filterMap_append]
    simp only [drain, account.recorded, List.filterMap_cons, List.filterMap_nil,
      Except.toOption, List.append_nil]
  case errors => simp [account.errors, errorOf]
  case metrics => exact account.metrics
  case counter =>
    rw [List.length_append]
    exact counted
  case queued => exact ⟨rfl, rfl⟩

theorem recorded_accounted {proof : Proof} {verification : VerificationResult} {verified : World}
    (filled : machine.engine.pending ≠ []) (executed : Executes setup machine counter trace)
    (account : Accounted setup arrivals results attempts rest machine.engine) :
    Accounted setup arrivals (results ++ [.ok ()])
      (attempts ++ [⟨rest, .ok (recordedEntry machine counter trace proof verification verified)⟩])
      [] (record machine.engine counter
        (recordedEntry machine counter trace proof verification verified)) := by
  have pending := accounted_pending account
  have arrived : rest ≠ [] := by
    rwa [pending, Ne, priority_first_eq_nil_iff] at filled
  have counted := add_u64_one account.counter executed.1
  constructor
  case stream => simp [account.stream]
  case described =>
    refine attempt_described account.described ⟨arrived, ?_, ?_, ?_⟩
    · intro entry recorded
      cases recorded
      exact pending
    · intro entry recorded
      cases recorded
      rw [← counted]
      rfl
    · intro entry recorded
      cases recorded
      exact ⟨rfl, rfl, executed.2⟩
  case recorded =>
    rw [List.filterMap_append]
    simp only [record, account.recorded, List.filterMap_cons, List.filterMap_nil,
      Except.toOption]
  case errors => simp [account.errors, errorOf]
  case metrics =>
    simp only [record, drain, MetricsAggregator.record, List.map_append, List.map_singleton,
      account.metrics]
  case counter =>
    rw [List.length_append]
    exact counted
  case queued => exact ⟨rfl, rfl⟩

theorem perform_accounted {result : Except ExecError Unit}
    (returned : perform setup call machine = some (result, after))
    (account : Accounted setup arrivals results attempts rest machine.engine) :
    ∃ final remaining, Accounted setup (arrivals ++ ingested [call]) (results ++ [result]) final
      remaining after.engine ∧ (call = .flush → remaining = []) := by
  have rested := resting_accounted call account
  obtain ⟨idle, rests⟩ | ⟨point, _, same, filled, seals⟩ := perform_cases setup call machine
  · cases rests.symm.trans returned
    have quiet : (results ++ [Except.ok ()]).filterMap errorOf =
        attempts.filterMap fun attempt => errorOf attempt.outcome := by
      rw [List.filterMap_append, rested.errors]
      exact List.append_nil _
    refine ⟨attempts, rest ++ ingested [call], { rested with errors := quiet }, ?_⟩
    intro isFlush
    subst isFlush
    simp only [sealPoint] at idle
    split_ifs at idle with empty
    rw [accounted_pending account, priority_first_eq_nil_iff] at empty
    rw [empty]
    rfl
  · have spec := seal_spec setup point
    rw [← seals, returned] at spec
    rw [← same] at rested
    cases spec with
    | idle empty => exact absurd empty filled
    | failed _ executed _ error =>
        exact ⟨_, [], failed_accounted filled executed error rested, fun _ => rfl⟩
    | recorded _ executed accepted =>
        exact ⟨_, [], recorded_accounted filled executed rested, fun _ => rfl⟩

end Accounts

section Runs

variable {Policy World : Type} [PolicyEngine Policy] [Clock World] {setup : Setup World}
variable {arrivals rest : List Transaction} {past results : List (Except ExecError Unit)}
variable {attempts : List Attempt} {machine after : Machine Policy World} {calls : List Call}

theorem perform_all_cons {call : Call} {rest : List Call}
    (ran : performAll setup (call :: rest) machine = some (results, after)) :
    ∃ result next others, perform setup call machine = some (result, next) ∧
      performAll setup rest next = some (others, after) ∧ results = result :: others := by
  simp only [performAll, bind, Option.bind_eq_some_iff, Option.some.injEq, Prod.mk.injEq] at ran
  obtain ⟨⟨result, next⟩, first, ⟨others, last⟩, onward, same, rfl⟩ := ran
  exact ⟨result, next, others, first, onward, same.symm⟩

theorem perform_all_accounted
    (account : Accounted setup arrivals past attempts rest machine.engine)
    (ran : performAll setup calls machine = some (results, after)) :
    ∃ final remaining, Accounted setup (arrivals ++ ingested calls) (past ++ results) final
      remaining after.engine ∧ (calls.getLast? = some .flush → remaining = []) := by
  induction calls generalizing machine arrivals past attempts rest results with
  | nil =>
      cases ran
      refine ⟨attempts, rest, ?_, fun last => (nomatch last)⟩
      simp only [ingested, List.append_nil]
      exact account
  | cons call calls ih =>
      obtain ⟨result, next, others, first, onward, rfl⟩ := perform_all_cons ran
      obtain ⟨between, waiting, accounted, emptied⟩ := perform_accounted first account
      obtain ⟨final, remaining, finished, last⟩ := ih accounted onward
      rw [List.append_assoc, ← ingested_cons, List.append_assoc] at finished
      refine ⟨final, remaining, finished, ?_⟩
      intro isFlush
      cases calls with
      | nil =>
          -- The flush was this very call, and nothing came after it.
          rw [List.getLast?_singleton, Option.some.injEq] at isFlush
          cases onward
          have pending := accounted_pending accounted
          rw [emptied isFlush, accounted_pending finished] at pending
          exact (priority_first_eq_nil_iff remaining).mp pending
      | cons other calls =>
          rw [List.getLast?_cons_cons] at isFlush
          exact last isFlush

theorem perform_all_total (release : setup.mode = .wrapping)
    (strict : machine.engine.executor.inner.failOnInvalid = true) (calls : List Call) :
    ∃ outcome, performAll setup calls machine = some outcome := by
  induction calls generalizing machine with
  | nil => exact ⟨_, rfl⟩
  | cons call calls ih =>
      obtain ⟨⟨result, next⟩, first⟩ := PipelineBatches.perform_total release strict call
      have kept : next.engine.executor.inner.failOnInvalid = true := by
        rw [(perform_keeps first).2]
        exact strict
      obtain ⟨⟨others, last⟩, onward⟩ := ih kept
      refine ⟨(result :: others, last), ?_⟩
      simp only [performAll, bind, first, onward, Option.bind_some]

omit [PolicyEngine Policy] [Clock World] in
theorem attempts_perm
    (recorded : ∀ attempt ∈ attempts, ∀ entry, attempt.outcome = .ok entry →
      entry.transactions = priorityFirst attempt.arrived) :
    (attempts.map Attempt.arrived).flatten.Perm
      (((attempts.filterMap fun attempt => attempt.outcome.toOption).map
        RecordedBatch.transactions).flatten ++ attempts.flatMap Attempt.lost) := by
  induction attempts with
  | nil => exact .nil
  | cons attempt rest ih =>
      have others := ih fun other member => recorded other (List.mem_cons_of_mem _ member)
      rw [List.map_cons, List.flatten_cons, List.flatMap_cons]
      cases outcome : attempt.outcome with
      | error error =>
          have lost : attempt.lost = attempt.arrived := by rw [Attempt.lost, outcome]
          have skipped : (attempt :: rest).filterMap (fun attempt => attempt.outcome.toOption) =
              rest.filterMap fun attempt => attempt.outcome.toOption :=
            List.filterMap_cons_none (by rw [outcome]; rfl)
          rw [lost, skipped]
          exact (others.append_left _).trans (List.perm_append_comm_assoc _ _ _)
      | ok entry =>
          have lost : attempt.lost = [] := by rw [Attempt.lost, outcome]
          have kept : (attempt :: rest).filterMap (fun attempt => attempt.outcome.toOption) =
              entry :: rest.filterMap fun attempt => attempt.outcome.toOption :=
            List.filterMap_cons_some (by rw [outcome]; rfl)
          have own := recorded attempt List.mem_cons_self entry outcome
          rw [lost, kept, List.nil_append, List.map_cons, List.flatten_cons, List.append_assoc, own]
          exact (priority_first_perm _).symm.append others

omit [PolicyEngine Policy] [Clock World] in
/-- Every transaction is recorded, lost in a failed attempt, or still queued: in exactly one
of these, as often as it was ingested. -/
theorem accounted_perm
    (account : Accounted setup arrivals past attempts rest machine.engine) :
    arrivals.Perm (recordedTransactions machine.engine ++ attempts.flatMap Attempt.lost ++
      machine.engine.pending) := by
  have recorded : ∀ attempt ∈ attempts, ∀ entry, attempt.outcome = .ok entry →
      entry.transactions = priorityFirst attempt.arrived := by
    intro attempt member
    obtain ⟨index, found⟩ := List.getElem?_of_mem member
    exact (account.described index attempt found).transactions
  rw [account.stream, accounted_pending account, recordedTransactions, account.recorded]
  exact (attempts_perm recorded).append (priority_first_perm rest).symm

end Runs

/-- Whatever the prover and the verifier answer, and however often a caller goes on after
an error: the calls make attempts whose transactions and the queues are the ingested
stream, in order; the recorded batches and the returned errors are the outcomes of the
attempts, in order, a batch under the number of its attempt; every transaction is in
one recorded batch, in one failed attempt or queued, and after a `flush` none is. -/
theorem every_call_sequence_is_accounted {Policy World : Type} [PolicyEngine Policy]
    [Clock World] (setup : Setup World) (policy : Policy) (executor : FullExecutor)
    (world : World) (calls : List Call) :
    (setup.mode = .wrapping → executor.inner.failOnInvalid = true →
      ∃ outcome, performAll setup calls ⟨.new policy executor, world⟩ = some outcome) ∧
    ∀ results after, performAll setup calls ⟨.new policy executor, world⟩ = some (results, after) →
      ∃ attempts rest, Accounted setup (ingested calls) results attempts rest after.engine ∧
        (ingested calls).Perm (recordedTransactions after.engine ++
          attempts.flatMap Attempt.lost ++ after.engine.pending) ∧
        (calls.getLast? = some .flush → after.engine.pending = []) := by
  constructor
  · intro release strict
    exact perform_all_total release strict calls
  · intro results after ran
    obtain ⟨attempts, rest, account, flushed⟩ :=
      perform_all_accounted (new_accounted setup policy executor) ran
    rw [List.nil_append, List.nil_append] at account
    refine ⟨attempts, rest, account, accounted_perm account, ?_⟩
    intro isFlush
    rw [accounted_pending account, flushed isFlush]
    rfl

section Samples

open CatalystSvm.PipelineBatches

def lateSetup : Setup VirtualClock :=
  { sampleSetup with
    prove := fun trace transactions clock =>
      if trace.batchId = "batch_000001" then (.error (.internal "not ready"), clock)
      else sampleSetup.prove trace transactions clock }

def threeCalls : List Call :=
  [.ingest (sampleArrival "a" 0 .normal), .ingest (sampleArrival "b" 5 .normal), .flush]

end Samples

/-- The first transaction is lost, and the second is recorded under the second number. -/
theorem second_batch_is_recorded_after_an_error :
    ∃ results after attempts rest,
      performAll lateSetup threeCalls ⟨.new (FixedCountPolicy.mk 1) (.new 200000), ⟨0⟩⟩ =
        some (results, after) ∧
      after.engine.recorded.map (fun entry => entry.batch.batchId) = ["batch_000002"] ∧
      Accounted lateSetup (ingested threeCalls) results attempts rest after.engine := by
  have general := every_call_sequence_is_accounted lateSetup (FixedCountPolicy.mk 1)
    (.new 200000) ⟨0⟩ threeCalls
  obtain ⟨⟨results, after⟩, ran⟩ := general.1 rfl rfl
  have ids : (performAll lateSetup threeCalls
      ⟨.new (FixedCountPolicy.mk 1) (.new 200000), ⟨0⟩⟩).map (fun outcome =>
        outcome.2.engine.recorded.map fun entry => entry.batch.batchId) =
          some ["batch_000002"] := by
    decide +kernel
  rw [ran, Option.map_some, Option.some.injEq] at ids
  obtain ⟨attempts, rest, account, _⟩ := general.2 results after ran
  exact ⟨results, after, attempts, rest, ran, ids, account⟩

end CatalystSvm.PipelineAttempts
