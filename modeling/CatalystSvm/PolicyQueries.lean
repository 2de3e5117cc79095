import CatalystSvm.ContinuityRuns
import CatalystSvm.LatencyReport

/-!
# What the policy is asked

The policy is asked once for every ingested transaction; `flush` seals unasked. The
wait that the policy is told comes from the cached `oldest_arrival`, which is
compared here with the two queues over whole runs.
-/

namespace CatalystSvm.PolicyQueries

open CatalystSvm.CommonTypes CatalystSvm.MachineArithmetic CatalystSvm.BatchPolicy
open CatalystSvm.CommonMetrics CatalystSvm.ExecutionEngine CatalystSvm.PipelineEngine
open CatalystSvm.PipelineRuns CatalystSvm.PipelineBatches CatalystSvm.LatencyReport
open CatalystSvm.Library.Runs
open CatalystSvm.ContinuityRuns (ingested)

set_option autoImplicit false

/-! ## Queries -/

structure Query (Policy : Type) where
  policy : Policy
  queueLen : Nat
  oldestWaitMs : UInt64
  avgArrivalRate : Float

section Queries

variable {Policy World : Type} [PolicyEngine Policy] [Clock World]

def Query.answer (query : Query Policy) : Bool :=
  PolicyEngine.shouldSeal query.policy query.queueLen query.oldestWaitMs query.avgArrivalRate

def queryOf (machine : Machine Policy World) : Query Policy where
  policy := machine.engine.policy
  queueLen := machine.engine.queue.length + machine.engine.priorityLane.length
  oldestWaitMs := saturatingSub (Clock.nowMs machine.world).1 machine.engine.oldestArrival
  avgArrivalRate :=
    arrivalRate (machine.engine.queue.length + machine.engine.priorityLane.length)
      (Clock.nowMs machine.world).1 machine.engine.lastSealTime

/-- The machine about which a call asks. -/
def asking : Call → Machine Policy World → Option (Machine Policy World)
  | .ingest tx, machine => some (enqueue tx machine)
  | .flush, _ => none

theorem try_seal_asks (setup : Setup World) (machine : Machine Policy World)
    (filled : machine.engine.pending ≠ []) :
    trySeal setup machine =
      if (queryOf machine).answer = true then
        sealAndProcess setup ⟨machine.engine, (Clock.nowMs machine.world).2⟩
      else some (.ok (), ⟨machine.engine, (Clock.nowMs machine.world).2⟩) := by
  have busy : ¬ machine.engine.queue.length + machine.engine.priorityLane.length = 0 := by
    rw [pending_length, List.length_eq_zero_iff]
    exact filled
  simp only [trySeal, if_neg busy]
  rfl

/-- Ask the policy about the listed machine and act on its answer. -/
def askAndAct (setup : Setup World) (call : Call) (machine : Machine Policy World) :
    Option (Outcome Policy World) :=
  match asking call machine with
  | some point =>
      if (queryOf point).answer = true then
        sealAndProcess setup ⟨point.engine, (Clock.nowMs point.world).2⟩
      else some (.ok (), ⟨point.engine, (Clock.nowMs point.world).2⟩)
  | none =>
      if machine.engine.pending = [] then some (.ok (), machine)
      else sealAndProcess setup machine

theorem perform_asks (setup : Setup World) (call : Call) (machine : Machine Policy World) :
    perform setup call machine = askAndAct setup call machine := by
  cases call with
  | ingest tx =>
      apply try_seal_asks
      apply List.ne_nil_of_length_pos
      rw [enqueue_pending_length]
      exact Nat.succ_pos _
  | flush =>
      rw [perform, flush_eq setup 0 machine]
      rfl

end Queries

/-! ## Arrivals in order -/

section Order

variable {Policy World : Type} [PolicyEngine Policy] [Clock World]

def Follows (machine : Machine Policy World) (call : Call) : Prop :=
  ∀ tx, call = .ingest tx →
    ∀ other ∈ machine.engine.pending, other.arrivalTs ≤ tx.arrivalTs

theorem each_step_stopped (setup : Setup World) (calls : List Call)
    (Allowed : Machine Policy World → Call → Prop) :
    EachStep (callStep setup) none calls (WhileRunning Allowed) := by
  induction calls with
  | nil => exact each_step_nil _ _ _
  | cons call rest ih =>
      rw [each_step_cons]
      exact ⟨trivial, ih⟩

theorem perform_pending {setup : Setup World} {machine after : Machine Policy World}
    {call : Call} {result : Except ExecError Unit}
    (returned : perform setup call machine = some (result, after)) :
    ∀ other ∈ after.engine.pending,
      call = .ingest other ∨ other ∈ machine.engine.pending := by
  intro other member
  obtain rests | ⟨empty, _⟩ | ⟨_, empty, _⟩ := perform_records returned
  · rw [rests] at member
    cases call with
    | ingest tx =>
        obtain same | queued := mem_enqueue_pending.mp member
        · rw [same]
          exact .inl rfl
        · exact .inr queued
    | flush => exact .inr member
  · rw [empty] at member
    cases member
  · rw [empty] at member
    cases member

theorem each_step_follows (setup : Setup World) (calls : List Call)
    (machine : Machine Policy World)
    (ordered : (ingested calls).Pairwise fun first second => first.arrivalTs ≤ second.arrivalTs)
    (behind : ∀ other ∈ machine.engine.pending, ∀ tx ∈ ingested calls,
      other.arrivalTs ≤ tx.arrivalTs) :
    EachStep (callStep setup) (some machine) calls (WhileRunning Follows) := by
  induction calls generalizing machine with
  | nil => exact each_step_nil _ _ _
  | cons call rest ih =>
      rw [each_step_cons]
      constructor
      · intro tx same other member
        rw [same] at behind
        exact behind other member tx List.mem_cons_self
      · have tail : (ingested rest).Pairwise fun first second =>
            first.arrivalTs ≤ second.arrivalTs := by
          cases call with
          | ingest tx => exact (List.pairwise_cons.mp ordered).2
          | flush => exact ordered
        cases performed : perform setup call machine with
        | none =>
            rw [callStep, performed]
            exact each_step_stopped setup rest _
        | some outcome =>
            rw [callStep, performed]
            apply ih outcome.2 tail
            intro other member tx later
            obtain brought | queued := perform_pending performed other member
            · rw [brought] at ordered
              exact (List.pairwise_cons.mp ordered).1 tx later
            · apply behind other queued tx
              cases call with
              | ingest first => exact List.mem_cons_of_mem _ later
              | flush => exact later

end Order

/-! ## The oldest wait -/

/-- The time at which the first of the transactions arrived, and no other time. -/
structure IsOldest (oldest : UInt64) (transactions : List Transaction) : Prop where
  attained : ∃ tx ∈ transactions, tx.arrivalTs = oldest
  first : ∀ tx ∈ transactions, oldest ≤ tx.arrivalTs

section Waiting

variable {Policy Outside : Type} [PolicyEngine Policy]
variable {setup : Setup (VirtualClock × Outside)} {call : Call}
variable {machine after : Machine Policy (VirtualClock × Outside)}

/-- Everything queued has arrived, and the policy is told how long its first has waited. -/
def SeesTrueWait (machine : Machine Policy (VirtualClock × Outside)) (call : Call) : Prop :=
  ∀ point, asking call machine = some point →
    (∀ tx ∈ point.engine.pending, tx.arrivalTs ≤ point.world.1.currentMs) ∧
    (point.engine.pending.map fun tx =>
      point.world.1.currentMs.toNat - tx.arrivalTs.toNat).max? =
        some (queryOf point).oldestWaitMs.toNat

/-- The cached arrival is that of the first transaction queued, if any is. -/
structure KeepsOldest (machine : Machine Policy (VirtualClock × Outside)) : Prop where
  clocked : Clocked machine
  oldest : machine.engine.pending ≠ [] →
    IsOldest machine.engine.oldestArrival machine.engine.pending

omit [PolicyEngine Policy] in
theorem enqueue_oldest {tx : Transaction} (kept : KeepsOldest machine)
    (follows : ∀ other ∈ machine.engine.pending, other.arrivalTs ≤ tx.arrivalTs) :
    IsOldest (enqueue tx machine).engine.oldestArrival
      (enqueue tx machine).engine.pending := by
  have cached : (enqueue tx machine).engine.oldestArrival = oldestAfter tx machine.engine := by
    rw [enqueue_engine]
  rw [cached]
  by_cases empty : machine.engine.pending = []
  · rw [oldestAfter, if_pos ((pending_empty_iff _).mpr empty)]
    constructor
    · exact ⟨tx, mem_enqueue_pending.mpr (.inl rfl), rfl⟩
    · intro other member
      obtain same | queued := mem_enqueue_pending.mp member
      · rw [same]
        exact UInt64.le_refl _
      · rw [empty] at queued
        cases queued
  · have busy : ¬(machine.engine.queue.isEmpty && machine.engine.priorityLane.isEmpty) = true :=
      fun both => empty ((pending_empty_iff _).mp both)
    rw [oldestAfter, if_neg busy]
    obtain ⟨⟨oldest, queued, arrived⟩, first⟩ := kept.oldest empty
    constructor
    · exact ⟨oldest, mem_enqueue_pending.mpr (.inr queued), arrived⟩
    · intro other member
      obtain same | before := mem_enqueue_pending.mp member
      · rw [same, ← arrived]
        exact follows oldest queued
      · exact first other before

omit [PolicyEngine Policy] in
theorem longest_wait {oldest now : UInt64} {transactions : List Transaction}
    (isOldest : IsOldest oldest transactions) :
    (transactions.map fun tx => now.toNat - tx.arrivalTs.toNat).max? =
      some (saturatingSub now oldest).toNat := by
  rw [List.max?_eq_some_iff, saturating_sub_to_nat]
  constructor
  · obtain ⟨tx, member, arrived⟩ := isOldest.attained
    rw [← arrived]
    exact List.mem_map_of_mem member
  · intro wait member
    obtain ⟨tx, queued, waited⟩ := List.mem_map.mp member
    have before := isOldest.first tx queued
    rw [UInt64.le_iff_toNat_le] at before
    omega

omit [PolicyEngine Policy] in
theorem sees_true_wait (kept : KeepsOldest machine) (follows : Follows machine call) :
    SeesTrueWait machine call := by
  intro point asked
  cases call with
  | ingest tx =>
      cases asked
      constructor
      · exact enqueue_arrived tx kept.clocked
      · exact longest_wait (enqueue_oldest kept (follows tx rfl))
  | flush => cases asked

theorem perform_keeps_oldest {result : Except ExecError Unit} (kept : KeepsOldest machine)
    (follows : Follows machine call)
    (returned : perform setup call machine = some (result, after)) : KeepsOldest after := by
  refine ⟨perform_clocked kept.clocked returned, ?_⟩
  intro filled
  obtain rests | ⟨empty, _⟩ | ⟨_, empty, _⟩ := perform_records returned
  · rw [rests] at filled ⊢
    cases call with
    | ingest tx => exact enqueue_oldest kept (follows tx rfl)
    | flush => exact kept.oldest filled
  · exact absurd empty filled
  · exact absurd empty filled

end Waiting

/-- Over every run on a virtual clock whose transactions are ingested in the order of
their arrival, whatever the services do to the clock: each call acts on the answer to
its query, and the query tells the true wait. -/
theorem policy_sees_true_oldest_wait {Policy Outside : Type} [PolicyEngine Policy]
    (setup : Setup (VirtualClock × Outside)) (policy : Policy) (executor : FullExecutor)
    (world : VirtualClock × Outside) (calls : List Call)
    (ordered : (ingested calls).Pairwise fun first second =>
      first.arrivalTs ≤ second.arrivalTs) :
    EachStep (callStep setup) (some ⟨.new policy executor, world⟩) calls
      (WhileRunning fun machine call =>
        perform setup call machine = askAndAct setup call machine ∧
          SeesTrueWait machine call) := by
  have follows : EachStep (callStep setup) (some ⟨.new policy executor, world⟩) calls
      (WhileRunning Follows) := by
    apply each_step_follows setup calls _ ordered
    intro other member
    cases member
  have initially : KeepsOldest (Machine.mk (Engine.new policy executor) world) :=
    ⟨(new_timely setup policy executor world).clocked, fun filled => absurd rfl filled⟩
  have kept : Always (callStep setup) (some ⟨.new policy executor, world⟩) calls
      (OnceRunning KeepsOldest) := by
    apply once_running_of_each_step initially _ follows
    intro machine call result after before allowed returned
    exact perform_keeps_oldest before allowed returned
  apply while_running_given kept follows
  intro machine call holds allowed
  exact ⟨perform_asks setup call machine, sees_true_wait holds allowed⟩

/-- The first transaction waits in the queue when the second enters the fast lane. -/
theorem fast_lane_does_not_hide_the_queue :
    ∃ machine, stateAfter (callStep timedSetup)
        (some ⟨.new (FixedCountPolicy.mk 3) (.new 200000), ⟨0⟩, ()⟩)
        [.ingest (sampleArrival "a" 0 .normal), .ingest (sampleArrival "b" 100 .critical)] 1 =
          some machine ∧
      SeesTrueWait machine (.ingest (sampleArrival "b" 100 .critical)) ∧
      (queryOf (enqueue (sampleArrival "b" 100 .critical) machine)).oldestWaitMs.toNat = 100 := by
  have sees := policy_sees_true_oldest_wait timedSetup (FixedCountPolicy.mk 3) (.new 200000)
    (⟨0⟩, ()) [.ingest (sampleArrival "a" 0 .normal), .ingest (sampleArrival "b" 100 .critical)]
    (by decide) 1 (.ingest (sampleArrival "b" 100 .critical)) rfl
  have told : (stateAfter (callStep timedSetup)
      (some ⟨.new (FixedCountPolicy.mk 3) (.new 200000), ⟨0⟩, ()⟩)
      [.ingest (sampleArrival "a" 0 .normal), .ingest (sampleArrival "b" 100 .critical)] 1).map
        (fun machine =>
          (queryOf (enqueue (sampleArrival "b" 100 .critical) machine)).oldestWaitMs.toNat) =
      some 100 := by
    decide +kernel
  obtain ⟨machine, reached, wait⟩ := Option.map_eq_some_iff.mp told
  rw [reached] at sees
  exact ⟨machine, reached, sees.2, wait⟩

end CatalystSvm.PolicyQueries
