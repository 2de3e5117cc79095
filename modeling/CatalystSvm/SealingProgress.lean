import CatalystSvm.ValidatorRuns

/-!
# When a queued transaction is sealed

The batch of a transaction and its place there are settled when it joins the
queue: they depend on what stands ahead of it, and neither on the policy nor on
the interleaving. A policy with a timeout gets to that batch after as many due
checks as there are batches ahead. A count policy may never get to it.
-/

namespace CatalystSvm.SealingProgress

open CatalystSvm.CommonTypes CatalystSvm.CommonMerkle CatalystSvm.MachineArithmetic
open CatalystSvm.BatchPolicy CatalystSvm.ExecutionEngine CatalystSvm.IssuedIds
open CatalystSvm.ValidatorNode CatalystSvm.ValidatorRuns CatalystSvm.Library.Runs

set_option autoImplicit false

/-! ## The place of a transaction -/

/-- Where a transaction is that had `queue` ahead of it when `sealed` batches were cut. -/
structure Placed (batchSize sealed : Nat) (queue : List Transaction) (tx : Transaction)
    (system : System) : Prop where
  since : sealed ≤ system.tasks.length
  waiting : system.tasks.length ≤ sealed + queue.length / batchSize →
    ∃ later, system.state.pendingTxs =
      queue.drop ((system.tasks.length - sealed) * batchSize) ++ tx :: later
  batched : sealed + queue.length / batchSize < system.tasks.length →
    ∃ task, system.tasks[sealed + queue.length / batchSize]? = some task ∧
      task.transactions[queue.length % batchSize]? = some tx

theorem placed_at_first {batchSize : Nat} {queue later : List Transaction} {tx : Transaction}
    {system : System} (pending : system.state.pendingTxs = queue ++ tx :: later) :
    Placed batchSize system.tasks.length queue tx system where
  since := Nat.le_refl _
  waiting := by
    intro _
    rw [Nat.sub_self, Nat.zero_mul, List.drop_zero]
    exact ⟨later, pending⟩
  batched := by
    intro past
    exact absurd past (Nat.not_lt.mpr (Nat.le_add_right _ _))

section Places

variable {Policy : Type} {validator : Validator Policy} {batchSize sealed : Nat}
variable {queue : List Transaction} {tx : Transaction} {system : System}

theorem submit_keeps_place [PolicyEngine Policy] (params : SubmitTxParams) (now : UInt64)
    (placed : Placed batchSize sealed queue tx system) :
    Placed batchSize sealed queue tx (step validator system (.submit params now)) := by
  cases submitted : submitTransaction validator params now system.state with
  | none =>
      simp only [step, submitted]
      exact placed
  | some result =>
      obtain ⟨after, joined⟩ := result
      obtain ⟨counter, _, _, rfl⟩ := submit_some submitted
      simp only [step, submitted]
      constructor
      case since => exact placed.since
      case batched => exact placed.batched
      case waiting =>
        intro early
        obtain ⟨later, pending⟩ := placed.waiting early
        exact ⟨later ++ [joined], by simp [pending]⟩

theorem seal_keeps_place [PolicyEngine Policy] (now : UInt64) (positive : 0 < validator.batchSize)
    (placed : Placed validator.batchSize sealed queue tx system) :
    Placed validator.batchSize sealed queue tx (step validator system (.checkAndSeal now)) := by
  cases checked : checkAndSealBatch validator now system.state with
  | none =>
      simp only [step, checked]
      exact placed
  | some result =>
      obtain ⟨after, batchId, transactions⟩ := result
      obtain ⟨counter, _, _, rfl, rfl, rfl⟩ := check_and_seal_some checked
      have since := placed.since
      simp only [step, checked]
      constructor
      case since =>
        rw [List.length_append, List.length_singleton]
        omega
      case waiting =>
        intro early
        rw [List.length_append, List.length_singleton] at early ⊢
        obtain ⟨later, pending⟩ := placed.waiting (by omega)
        refine ⟨later, ?_⟩
        -- one more full batch fits ahead of the transaction
        have full : (system.tasks.length - sealed + 1) * validator.batchSize ≤ queue.length :=
          Nat.le_trans (Nat.mul_le_mul_right _ (by omega)) (Nat.div_mul_le_self _ _)
        rw [Nat.add_mul, Nat.one_mul] at full
        have ahead : (queue.drop ((system.tasks.length - sealed) * validator.batchSize)).length =
            queue.length - (system.tasks.length - sealed) * validator.batchSize :=
          List.length_drop
        have count : min system.state.pendingTxs.length validator.batchSize =
            validator.batchSize := by
          apply Nat.min_eq_right
          rw [pending, List.length_append, ahead]
          omega
        have next : system.tasks.length + 1 - sealed = system.tasks.length - sealed + 1 := by omega
        rw [count, pending, List.drop_append_of_le_length (by omega), List.drop_drop, next,
          Nat.add_mul, Nat.one_mul]
      case batched =>
        intro late
        rw [List.length_append, List.length_singleton] at late
        by_cases already : sealed + queue.length / validator.batchSize < system.tasks.length
        · obtain ⟨task, found, holds⟩ := placed.batched already
          exact ⟨task, by rw [List.getElem?_append_left already]; exact found, holds⟩
        · obtain ⟨later, pending⟩ := placed.waiting (by omega)
          have here : sealed + queue.length / validator.batchSize = system.tasks.length := by omega
          have passed : system.tasks.length - sealed = queue.length / validator.batchSize := by
            omega
          have divided := Nat.div_add_mod' queue.length validator.batchSize
          have bound := Nat.mod_lt queue.length positive
          rw [passed] at pending
          have ahead : (queue.drop (queue.length / validator.batchSize *
              validator.batchSize)).length = queue.length % validator.batchSize := by
            rw [List.length_drop]
            omega
          rw [here]
          refine ⟨_, List.getElem?_concat_length, ?_⟩
          have inside : queue.length % validator.batchSize <
              min system.state.pendingTxs.length validator.batchSize := by
            rw [pending, List.length_append, ahead, List.length_cons]
            omega
          rw [List.getElem?_take_of_lt inside, pending,
            List.getElem?_append_right (Nat.le_of_eq ahead), ahead, Nat.sub_self]
          rfl

theorem advance_moves_stage (validator : Validator Policy) {index : Nat} {task : Task}
    (event : Event) (found : system.tasks[index]? = some task) :
    ∃ stage proofs, system.advance validator index task event =
      { system.setStage index task stage with
        state := { system.state with proofs := proofs } } := by
  obtain ⟨proof, timestamp, _, _, result⟩ | ⟨_, result⟩ | ⟨_, result⟩ :=
    @advance_cases _ validator _ _ _ event found
  · exact ⟨_, _, result⟩
  · exact ⟨_, system.state.proofs, result⟩
  · refine ⟨task.stage, system.state.proofs, result.trans ?_⟩
    rw [System.setStage, Library.TaskLists.set_found found]

theorem advance_keeps_place {index : Nat} {task : Task} (event : Event)
    (found : system.tasks[index]? = some task)
    (placed : Placed batchSize sealed queue tx system) :
    Placed batchSize sealed queue tx (system.advance validator index task event) := by
  obtain ⟨stage, proofs, result⟩ := advance_moves_stage validator event found
  rw [result]
  have same : (system.tasks.set index { task with stage := stage }).length =
      system.tasks.length := List.length_set
  constructor
  case since =>
    rw [System.setStage, same]
    exact placed.since
  case waiting =>
    rw [System.setStage, same]
    exact placed.waiting
  case batched =>
    rw [System.setStage, same]
    intro late
    obtain ⟨holder, held, holds⟩ := placed.batched late
    by_cases own : index = sealed + queue.length / batchSize
    · rw [← own] at held late ⊢
      cases found.symm.trans held
      exact ⟨{ task with stage := stage }, List.getElem?_set_self late, holds⟩
    · exact ⟨holder, by rw [List.getElem?_set_ne own]; exact held, holds⟩

theorem step_keeps_place [PolicyEngine Policy] (action : Action)
    (positive : 0 < validator.batchSize)
    (placed : Placed validator.batchSize sealed queue tx system) :
    Placed validator.batchSize sealed queue tx (step validator system action) := by
  cases action with
  | submit params now => exact submit_keeps_place params now placed
  | checkAndSeal now => exact seal_keeps_place now positive placed
  | advance index event =>
      cases found : system.tasks[index]? with
      | none =>
          simp only [step, found]
          exact placed
      | some task =>
          simp only [step, found]
          exact advance_keeps_place event found placed

end Places

/-! ## Checks that must seal -/

/-- A tick or a `forceSeal` at a time when each of these transactions has waited this long. -/
def isDueCheck (limitMs : UInt64) (queue : List Transaction) : Action → Bool
  | .checkAndSeal now => queue.all fun tx => decide (limitMs ≤ saturatingSub now tx.arrivalTs)
  | _ => false

/-- As long as a transaction waits, each due check of the past has sealed a batch. -/
def CountsChecks (limitMs : UInt64) (batchSize sealed : Nat) (queue : List Transaction)
    (tx : Transaction) (past : List Action) (system : System) : Prop :=
  system.tasks.length ≤ sealed + queue.length / batchSize →
    sealed + past.countP (isDueCheck limitMs (queue ++ [tx])) ≤ system.tasks.length

/-- A panicking transaction counter ends the submissions before it could wrap. -/
def Counted (mode : OverflowMode) (system : System) : Prop :=
  mode = .panicking → system.submitted.length < 2 ^ 64

section Progress

variable {Policy : Type} {validator : Validator Policy} {system : System}

theorem batch_counter_moves (positive : 0 < validator.batchSize)
    (sealing : Sealing validator.batchSize system) (counted : Counted validator.mode system)
    (nonempty : system.state.pendingTxs ≠ []) :
    ∃ counter, addU64 validator.mode system.state.batchCounter 1 = some counter := by
  cases mode : validator.mode with
  | wrapping => exact ⟨_, rfl⟩
  | panicking =>
      have few := counted mode
      have filled := Library.Segments.segments_le_items fun transactions member =>
        (sealing.sizes transactions member).2 positive
      rw [List.length_map] at filled
      have order := congrArg List.length sealing.order
      rw [List.length_append, drained] at order
      have pending := List.length_pos_iff.mpr nonempty
      refine ⟨_, add_u64_exact _ _ _ ?_⟩
      have size : UInt64.size = 2 ^ 64 := rfl
      rw [sealing.batchCounter, UInt64.toNat_ofNat_of_lt' (by omega)]
      have one : (1 : UInt64).toNat = 1 := rfl
      omega

variable [PolicyEngine Policy]

theorem step_keeps_counted (action : Action) (sealing : Sealing validator.batchSize system)
    (counted : Counted validator.mode system) :
    Counted validator.mode (step validator system action) := by
  intro panics
  have bound := counted panics
  cases action with
  | submit params now =>
      cases submitted : submitTransaction validator params now system.state with
      | none =>
          simp only [step, submitted]
          exact bound
      | some result =>
          obtain ⟨after, tx⟩ := result
          obtain ⟨counter, added, _, _⟩ := submit_some submitted
          rw [panics, sealing.txCounter] at added
          have exact := add_u64_panicking added
          have limit := counter.toNat_lt
          have current : (UInt64.ofNat system.submitted.length).toNat = system.submitted.length :=
            UInt64.toNat_ofNat_of_lt' bound
          have one : (1 : UInt64).toNat = 1 := rfl
          simp only [step, submitted, List.length_append, List.length_singleton]
          omega
  | checkAndSeal now =>
      cases checked : checkAndSealBatch validator now system.state with
      | none =>
          simp only [step, checked]
          exact bound
      | some result =>
          simp only [step, checked]
          exact bound
  | advance index event =>
      cases found : system.tasks[index]? with
      | none =>
          simp only [step, found]
          exact bound
      | some task =>
          simp only [step, found]
          obtain ⟨stage, proofs, result⟩ := advance_moves_stage validator event found
          rw [result]
          exact bound

theorem due_check_seals {limitMs now : UInt64} {oldest : Transaction} {rest : List Transaction}
    (positive : 0 < validator.batchSize) (patience : SealsAfter validator.policy limitMs)
    (sealing : Sealing validator.batchSize system) (counted : Counted validator.mode system)
    (pending : system.state.pendingTxs = oldest :: rest)
    (waited : limitMs ≤ saturatingSub now oldest.arrivalTs) :
    (step validator system (.checkAndSeal now)).tasks.length = system.tasks.length + 1 := by
  have nonempty : system.state.pendingTxs ≠ [] := by
    rw [pending]
    exact List.cons_ne_nil _ _
  obtain ⟨counter, added⟩ := batch_counter_moves positive sealing counted nonempty
  have seals := patience system.state.pendingTxs.length (saturatingSub now oldest.arrivalTs) 0.0
    (List.length_pos_iff.mpr nonempty) waited
  have checked : ∃ result, checkAndSealBatch validator now system.state = some result := by
    simp only [checkAndSealBatch, pending]
    rw [pending] at seals
    rw [if_pos seals, added]
    exact ⟨_, rfl⟩
  obtain ⟨result, checked⟩ := checked
  simp only [step, checked, List.length_append, List.length_singleton]

theorem step_keeps_batches (validator : Validator Policy) (system : System) (action : Action) :
    system.tasks.length ≤ (step validator system action).tasks.length := by
  cases action with
  | submit params now =>
      cases submitted : submitTransaction validator params now system.state with
      | none => simp only [step, submitted, Nat.le_refl]
      | some result => simp only [step, submitted, Nat.le_refl]
  | checkAndSeal now =>
      cases checked : checkAndSealBatch validator now system.state with
      | none => simp only [step, checked, Nat.le_refl]
      | some result =>
          simp only [step, checked, List.length_append]
          exact Nat.le_add_right _ _
  | advance index event =>
      cases found : system.tasks[index]? with
      | none => simp only [step, found, Nat.le_refl]
      | some task =>
          simp only [step, found]
          obtain ⟨stage, proofs, result⟩ := advance_moves_stage validator event found
          rw [result, System.setStage, List.length_set]

theorem step_counts_checks {limitMs : UInt64} {sealed : Nat} {queue : List Transaction}
    {tx : Transaction} {past : List Action} (action : Action)
    (positive : 0 < validator.batchSize) (patience : SealsAfter validator.policy limitMs)
    (sealing : Sealing validator.batchSize system) (counted : Counted validator.mode system)
    (placed : Placed validator.batchSize sealed queue tx system)
    (enough : CountsChecks limitMs validator.batchSize sealed queue tx past system) :
    CountsChecks limitMs validator.batchSize sealed queue tx (past ++ [action])
      (step validator system action) := by
  intro early
  rw [List.countP_append]
  have grows := step_keeps_batches validator system action
  have before := enough (Nat.le_trans grows early)
  cases due : isDueCheck limitMs (queue ++ [tx]) action with
  | false =>
      rw [List.countP_singleton, due]
      exact Nat.le_trans before grows
  | true =>
      cases action with
      | checkAndSeal now =>
          obtain ⟨later, pending⟩ := placed.waiting (Nat.le_trans grows early)
          have waited : ∀ other ∈ queue ++ [tx], limitMs ≤ saturatingSub now other.arrivalTs := by
            intro other member
            exact of_decide_eq_true (List.all_eq_true.mp due other member)
          -- the oldest pending transaction is one of those that were ahead, or the last of them
          obtain ⟨oldest, rest, first, member⟩ : ∃ oldest rest,
              system.state.pendingTxs = oldest :: rest ∧ oldest ∈ queue ++ [tx] := by
            cases ahead : queue.drop ((system.tasks.length - sealed) * validator.batchSize) with
            | nil =>
                rw [ahead] at pending
                exact ⟨tx, later, pending, by simp⟩
            | cons oldest others =>
                rw [ahead] at pending
                have listed : oldest ∈ queue := by
                  apply List.mem_of_mem_drop
                  rw [ahead]
                  exact List.mem_cons_self
                exact ⟨oldest, _, pending, List.mem_append_left _ listed⟩
          have seals := due_check_seals positive patience sealing counted first
            (waited oldest member)
          rw [List.countP_singleton, due, if_pos rfl, seals]
          omega
      | _ => cases due

end Progress

section Runs

variable {Policy : Type} [PolicyEngine Policy] (validator : Validator Policy)
variable {queue later : List Transaction} {tx : Transaction} {limitMs : UInt64}

theorem counted_always (actions : List Action) :
    Always (step validator) .init actions
      (fun system => Sealing validator.batchSize system ∧ Counted validator.mode system) := by
  have free : EachStep (step validator) System.init actions fun _ _ => True :=
    fun _ _ _ => trivial
  have start : Sealing validator.batchSize .init ∧ Counted validator.mode .init :=
    ⟨init_sealing _, fun _ => Nat.two_pow_pos 64⟩
  have kept (system : System) (action : Action)
      (held : Sealing validator.batchSize system ∧ Counted validator.mode system) (_ : True) :
      Sealing validator.batchSize (step validator system action) ∧
        Counted validator.mode (step validator system action) :=
    ⟨step_keeps_sealing action held.1, step_keeps_counted action held.1 held.2⟩
  exact always_of_each_step start kept free

theorem run_places (positive : 0 < validator.batchSize) (actions : List Action) (first : Nat)
    (pending : (stateAfter (step validator) .init actions first).state.pendingTxs =
      queue ++ tx :: later) (further : Nat) :
    Placed validator.batchSize (stateAfter (step validator) .init actions first).tasks.length queue
      tx (stateAfter (step validator) .init actions (first + further)) := by
  have free : EachStep (step validator) (stateAfter (step validator) .init actions first)
      (actions.drop first) fun _ _ => True := fun _ _ _ => trivial
  rw [state_after_add]
  apply always_of_each_step (placed_at_first pending) _ free
  intro system action placed _
  exact step_keeps_place action positive placed

theorem run_counts_checks (positive : 0 < validator.batchSize)
    (patience : SealsAfter validator.policy limitMs) (actions : List Action) (first : Nat)
    (pending : (stateAfter (step validator) .init actions first).state.pendingTxs =
      queue ++ tx :: later) (further : Nat) :
    CountsChecks limitMs validator.batchSize
      (stateAfter (step validator) .init actions first).tasks.length queue tx
      ((actions.drop first).take further)
      (stateAfter (step validator) .init actions (first + further)) := by
  let sealed := (stateAfter (step validator) .init actions first).tasks.length
  have allowed : EachStep (step validator) (stateAfter (step validator) .init actions first)
      (actions.drop first) fun system _ =>
        Placed validator.batchSize sealed queue tx system ∧
          Sealing validator.batchSize system ∧ Counted validator.mode system := by
    intro count action _
    rw [← state_after_add]
    exact ⟨run_places validator positive actions first pending count,
      counted_always validator actions _⟩
  have start : CountsChecks limitMs validator.batchSize sealed queue tx []
      (stateAfter (step validator) .init actions first) := fun _ => Nat.le_refl _
  have kept (past : List Action) (system : System) (action : Action)
      (before : CountsChecks limitMs validator.batchSize sealed queue tx past system)
      (given : Placed validator.batchSize sealed queue tx system ∧
        Sealing validator.batchSize system ∧ Counted validator.mode system) :
      CountsChecks limitMs validator.batchSize sealed queue tx (past ++ [action])
        (step validator system action) :=
    step_counts_checks action positive patience given.2.1 given.2.2 given.1 before
  rw [state_after_add]
  exact history_of_each_step start kept allowed further

end Runs

/-! ## The policies of the command line -/

/-- How long the oldest transaction can wait before every check seals. -/
def patience (args : Args) : Option UInt64 :=
  match args.policy with
  | .fixed => none
  | .time => some args.batchTimeoutMs
  | .hybrid => some args.batchTimeoutMs
  | .adaptive => some (min args.batchTimeoutMs 100)

theorem policy_engine_seals_after {args : Args} {limitMs : UInt64}
    (waits : patience args = some limitMs) : SealsAfter args.policyEngine limitMs := by
  unfold patience at waits
  unfold Args.policyEngine
  cases kind : args.policy with
  | fixed =>
      rw [kind] at waits
      cases waits
  | time =>
      rw [kind] at waits
      cases waits
      exact fixed_time_seals_after { intervalMs := args.batchTimeoutMs }
  | hybrid =>
      rw [kind] at waits
      cases waits
      exact hybrid_seals_after { countThreshold := args.batchSize
                                 timeThresholdMs := args.batchTimeoutMs }
  | adaptive =>
      rw [kind] at waits
      cases waits
      exact adaptive_seals_after (.new args.batchSize 200 args.batchTimeoutMs 100)

/-- A queued transaction goes into the batch, and to the place there, that the
queue ahead of it determines, whatever happens in between. Under a policy with a
timeout, one more due check than there are full batches ahead has sealed it. -/
theorem queued_transactions_are_sealed_in_turn (args : Args) (positive : 0 < args.batchSize)
    (hashBytes : HashBytes) (mode : OverflowMode) (actions : List Action) (first : Nat)
    (queue later : List Transaction) (tx : Transaction)
    (pending : (stateAfter (step (.new hashBytes mode args)) .init actions first).state.pendingTxs =
      queue ++ tx :: later) (further : Nat) :
    let before := stateAfter (step (.new hashBytes mode args)) .init actions first
    let system := stateAfter (step (.new hashBytes mode args)) .init actions (first + further)
    let batch := before.tasks.length + queue.length / args.batchSize
    (system.tasks.length ≤ batch → ∃ joined, system.state.pendingTxs =
      queue.drop ((system.tasks.length - before.tasks.length) * args.batchSize) ++ tx :: joined) ∧
    (batch < system.tasks.length → ∃ task, system.tasks[batch]? = some task ∧
      task.batchId = formatBatchId (UInt64.ofNat (batch + 1)) ∧
      task.transactions[queue.length % args.batchSize]? = some tx) ∧
    ∀ limitMs, patience args = some limitMs → queue.length / args.batchSize <
        ((actions.drop first).take further).countP (isDueCheck limitMs (queue ++ [tx])) →
      batch < system.tasks.length := by
  intro before system batch
  have placed := run_places (.new hashBytes mode args) positive actions first pending further
  refine ⟨placed.waiting, ?_, ?_⟩
  · intro late
    obtain ⟨task, found, holds⟩ : ∃ task, system.tasks[batch]? = some task ∧
        task.transactions[queue.length % args.batchSize]? = some tx := placed.batched late
    have named := (counted_always (.new hashBytes mode args) actions
      (first + further)).1.batchIds
    have titled : (batchIds system)[batch]? = some task.batchId := by
      rw [batchIds, List.getElem?_map, found]
      rfl
    have bound : batch < (issued formatBatchId system.tasks.length).length := by
      rwa [issued_length]
    rw [named, issued_get _ late] at titled
    exact ⟨task, found, (Option.some.inj titled).symm, holds⟩
  · intro limitMs waits enough
    by_contra waiting
    have early : system.tasks.length ≤ batch := Nat.le_of_not_lt waiting
    have counts : before.tasks.length +
        ((actions.drop first).take further).countP (isDueCheck limitMs (queue ++ [tx])) ≤
          system.tasks.length :=
      run_counts_checks (.new hashBytes mode args) positive
        (policy_engine_seals_after waits) actions first pending further early
    have most : system.tasks.length ≤ before.tasks.length + queue.length / args.batchSize := early
    omega

section Samples

def tickAfterTimeout : List Action :=
  [.submit (sampleParams "alice") 1000, .submit (sampleParams "bob") 1000, .checkAndSeal 6000]

end Samples

theorem second_submission_is_sealed_on_time :
    ∃ task, (stateAfter (step (.new sampleDigest .wrapping .default)) .init tickAfterTimeout
        (2 + 1)).tasks[0]? = some task ∧
      task.batchId = "batch_000001" ∧
      (task.transactions[1]?).map Transaction.sender = some "bob" := by
  have general := queued_transactions_are_sealed_in_turn .default (by decide) sampleDigest
    .wrapping tickAfterTimeout 2
    [submittedTransaction 1 (sampleParams "alice") 1000] []
    (submittedTransaction 2 (sampleParams "bob") 1000) rfl 1
  obtain ⟨task, found, named, holds⟩ := general.2.1 (general.2.2 5000 rfl (by decide))
  have first : formatBatchId (UInt64.ofNat (0 + 1)) = "batch_000001" := by decide +kernel
  refine ⟨task, found, named.trans first, ?_⟩
  have second : task.transactions[1]? =
    some (submittedTransaction 2 (sampleParams "bob") 1000) := holds
  rw [second]
  rfl

/-! ## A policy without a timeout -/

def FullBatches (batchSize : Nat) (system : System) : Prop :=
  ∀ transactions ∈ system.tasks.map Task.transactions, transactions.length = batchSize

section Remainders

variable {Policy : Type} [PolicyEngine Policy] {validator : Validator Policy} {system : System}

theorem step_keeps_full (waits : WaitsBelow validator.policy validator.batchSize) (action : Action)
    (full : FullBatches validator.batchSize system) :
    FullBatches validator.batchSize (step validator system action) := by
  cases action with
  | submit params now =>
      cases submitted : submitTransaction validator params now system.state with
      | none =>
          simp only [step, submitted]
          exact full
      | some result =>
          simp only [step, submitted]
          exact full
  | checkAndSeal now =>
      cases checked : checkAndSealBatch validator now system.state with
      | none =>
          simp only [step, checked]
          exact full
      | some result =>
          obtain ⟨after, batchId, transactions⟩ := result
          obtain ⟨counter, _, _, _, taken, _⟩ := check_and_seal_some checked
          have enough : validator.batchSize ≤ system.state.pendingTxs.length := by
            cases pending : system.state.pendingTxs with
            | nil => simp [checkAndSealBatch, pending] at checked
            | cons oldest rest =>
                by_contra short
                have declined := waits (oldest :: rest).length
                  (saturatingSub now oldest.arrivalTs) 0.0 (Nat.lt_of_not_le short)
                simp only [checkAndSealBatch, pending, declined, Bool.false_eq_true, if_false,
                  reduceCtorEq] at checked
          simp only [step, checked, FullBatches, List.map_append, List.map_singleton]
          intro others member
          obtain earlier | new := List.mem_append.mp member
          · exact full others earlier
          · rw [List.mem_singleton.mp new, taken, List.length_take]
            omega
  | advance index event =>
      cases found : system.tasks[index]? with
      | none =>
          simp only [step, found]
          exact full
      | some task =>
          simp only [step, found]
          obtain ⟨stage, proofs, result⟩ := advance_moves_stage validator event found
          have same : (system.tasks.set index { task with stage := stage }).map
              Task.transactions = system.tasks.map Task.transactions :=
            Library.TaskLists.map_set_same Task.transactions found rfl
          rw [result, System.setStage, FullBatches, same]
          exact full

theorem full_batches_always (validator : Validator Policy)
    (waits : WaitsBelow validator.policy validator.batchSize)
    (actions : List Action) :
    Always (step validator) .init actions (FullBatches validator.batchSize) := by
  have free : EachStep (step validator) System.init actions fun _ _ => True :=
    fun _ _ _ => trivial
  have start : FullBatches validator.batchSize .init := by
    intro transactions member
    cases member
  exact always_of_each_step start (fun _ action full _ => step_keeps_full waits action full) free

end Remainders

/-- With `--policy fixed` no number of ticks and `forceSeal` requests seals a
remainder: every batch has exactly `batch_size` transactions, and what the whole
batches leave over of the submissions stays at the end of the queue. -/
theorem fixed_validator_keeps_the_remainder (args : Args) (fixed : args.policy = .fixed)
    (hashBytes : HashBytes) (mode : OverflowMode) (actions : List Action) (count : Nat) :
    let system := stateAfter (step (.new hashBytes mode args)) .init actions count
    (∀ task ∈ system.tasks, task.transactions.length = args.batchSize) ∧
      system.tasks.length * args.batchSize ≤ system.submitted.length ∧
      system.submitted.drop (system.submitted.length / args.batchSize * args.batchSize) <:+
        system.state.pendingTxs := by
  intro system
  have waits : WaitsBelow args.policyEngine args.batchSize := by
    unfold Args.policyEngine
    rw [fixed]
    exact fixed_count_waits_below { threshold := args.batchSize }
  have full : FullBatches args.batchSize system :=
    full_batches_always (.new hashBytes mode args) waits actions count
  have order := (run_sealing (.new hashBytes mode args) actions count).order
  have taken : (drained system).length = system.tasks.length * args.batchSize := by
    rw [drained, List.length_flatten]
    have lengths : (system.tasks.map Task.transactions).map List.length =
        List.replicate system.tasks.length args.batchSize := by
      rw [List.eq_replicate_iff]
      constructor
      · simp
      · intro length member
        obtain ⟨transactions, listed, rfl⟩ := List.mem_map.mp member
        exact full transactions listed
    rw [lengths, List.sum_replicate_nat]
  have submitted : system.submitted = drained system ++ system.state.pendingTxs := order.symm
  have most : system.tasks.length * args.batchSize ≤ system.submitted.length := by
    rw [submitted, List.length_append, taken]
    exact Nat.le_add_right _ _
  refine ⟨fun task member => full _ (List.mem_map_of_mem member), most, ?_⟩
  have whole : system.tasks.length * args.batchSize ≤
      system.submitted.length / args.batchSize * args.batchSize := by
    cases size : args.batchSize with
    | zero => exact Nat.le_refl 0
    | succ size =>
        rw [size] at most
        exact Nat.mul_le_mul_right _ ((Nat.le_div_iff_mul_le (Nat.succ_pos _)).mpr most)
  have pending : system.submitted.drop (system.tasks.length * args.batchSize) =
      system.state.pendingTxs := by
    rw [submitted, ← taken, List.drop_left]
  rw [← pending]
  exact List.drop_suffix_drop_left _ whole

def threeChecks : List Action :=
  [.submit (sampleParams "alice") 0, .submit (sampleParams "bob") 0,
    .submit (sampleParams "carol") 0, .checkAndSeal 1000, .checkAndSeal 5000,
    .checkAndSeal 3600000]

theorem third_submission_is_never_sealed :
    [submittedTransaction 3 (sampleParams "carol") 0] <:+
      (stateAfter (step (.new sampleDigest .wrapping ⟨.fixed, 2, 5000⟩)) .init threeChecks
        6).state.pendingTxs :=
  (fixed_validator_keeps_the_remainder ⟨.fixed, 2, 5000⟩ rfl sampleDigest .wrapping threeChecks
    6).2.2

end CatalystSvm.SealingProgress
