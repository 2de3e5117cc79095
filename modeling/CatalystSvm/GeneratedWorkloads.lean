import CatalystSvm.ExecutionEngine
import CatalystSvm.Ingress

/-!
# What a generated workload is

Every scenario moves the clock on by at least one millisecond, so the arrivals of
a run increase; the names follow the counter; the bytes of an instruction decode
to the operands that were drawn. Executing one of them on a map of moderate
values can only fail on the deliberately unknown opcode or on a sender who
cannot pay.
-/

namespace CatalystSvm.GeneratedWorkloads

open CatalystSvm.MachineArithmetic CatalystSvm.CommonTypes CatalystSvm.CommonMerkle
open CatalystSvm.LedgerMachine CatalystSvm.Ingress CatalystSvm.Library.PaddedNumerals
open CatalystSvm.ExecutionEngine

set_option autoImplicit false

variable {Source : Type} {rng : Rng Source} {mode : OverflowMode}
variable {generator : WorkloadGenerator Source} {tx : Transaction}

/-! ## Arrivals -/

theorem draw_value {low high : Nat} (draw : Within low high) (narrow : high ≤ 2 ^ 64) :
    draw.asU64.toNat = draw.value := by
  have small : draw.value < 2 ^ 64 := Nat.lt_of_lt_of_le draw.below narrow
  rw [Within.asU64, UInt64.toNat_ofNat', Nat.mod_eq_of_lt small]

theorem draw_positive {low high : Nat} (draw : Within low high) (narrow : high ≤ 2 ^ 64)
    (positive : 0 < low) : 0 < draw.asU64.toNat := by
  rw [draw_value draw narrow]
  exact Nat.lt_of_lt_of_le positive draw.above

theorem sample_positive (sample : Sample) : 0 < sample.atLeastOne.toNat := by
  cases sample with
  | infinite => decide
  | finite value nonNegative =>
      have whole : (1 : Int) ≤ (max value 1).floor := by
        rw [Rat.le_floor_iff]
        exact le_max_right value 1
      have capped : min (max value 1).floor.toNat (2 ^ 64 - 1) < 2 ^ 64 := by omega
      rw [Sample.atLeastOne, UInt64.toNat_ofNat', Nat.mod_eq_of_lt capped]
      omega

theorem clamped_positive (shifted : Int64) : 0 < (max shifted 1).toUInt64.toNat := by
  have atLeast : (1 : Int64) ≤ max shifted 1 := by
    change (1 : Int64) ≤ if shifted ≤ 1 then 1 else shifted
    split_ifs with small
    · exact Int64.le_refl 1
    · exact Int64.le_of_lt (Int64.not_le.mp small)
  exact UInt64.le_iff_toNat_le.mp (Int64.toUInt64_le (by decide) atLeast)

theorem jitter_fits (mode : OverflowMode) {base : UInt64} (modest : base.toNat < 2 ^ 62)
    (draw : Within 0 10) :
    ∃ shifted, addI64 mode base.toInt64 (Int64.ofNat draw.value - 5) = some shifted := by
  have wide : base.toNat < 2 ^ 63 := by omega
  have small := draw.below
  have left : base.toInt64.toInt = base.toNat := by
    rw [← Int64.toInt_ofNat_of_lt wide, ← UInt64.toInt64_ofNat', UInt64.ofNat_toNat]
  have drawn : (Int64.ofNat draw.value).toInt = draw.value :=
    Int64.toInt_ofNat_of_lt (by omega)
  have right : (Int64.ofNat draw.value - 5).toInt = draw.value - 5 := by
    rw [Int64.toInt_sub, drawn]
    exact Int.bmod_eq_of_le (by change _ ≤ (draw.value : Int) - 5; omega)
      (by change (draw.value : Int) - 5 < _; omega)
  cases mode with
  | wrapping => exact ⟨_, rfl⟩
  | panicking =>
      refine ⟨_, if_pos ?_⟩
      rw [left, right]
      omega

theorem arrival_computed (rng : Rng Source) (mode : OverflowMode)
    (modest : generator.baseIntervalMs.toNat < 2 ^ 62) :
    ∃ delta priority source,
      generator.computeArrival rng mode = some ((delta, priority), source) ∧
        0 < delta.toNat := by
  unfold WorkloadGenerator.computeArrival
  cases generator.scenario with
  | steady =>
      cases rng.genRange .i32 0 10 (by decide) generator.source with
      | mk draw source =>
          obtain ⟨shifted, added⟩ := jitter_fits mode modest draw
          refine ⟨(max shifted 1).toUInt64, .normal, source, ?_, clamped_positive shifted⟩
          simp only [bind, added, Option.bind_some]
  | bursty =>
      cases burst : (rng.genBool 0.2 generator.source).1 with
      | true =>
          simp only [burst, if_true]
          exact ⟨_, _, _, rfl, draw_positive _ (by decide) (by decide)⟩
      | false =>
          simp only [burst, Bool.false_eq_true, if_false]
          exact ⟨_, _, _, rfl, draw_positive _ (by decide) (by decide)⟩
  | poisson => exact ⟨_, _, _, rfl, sample_positive _⟩
  | mixedPriority => exact ⟨_, _, _, rfl, draw_positive _ (by decide) (by decide)⟩
  | idleThenSpike =>
      simp only
      split_ifs
      · exact ⟨_, _, _, rfl, draw_positive _ (by decide) (by decide)⟩
      · exact ⟨_, _, _, rfl, draw_positive _ (by decide) (by decide)⟩
      · exact ⟨_, _, _, rfl, draw_positive _ (by decide) (by decide)⟩

/-! ## Instructions -/

inductive Encodes : List UInt8 → Instruction → Prop where
  | transfer (amount target : UInt64) :
      Encodes ([0] ++ toLeBytes amount ++ toLeBytes target) (.transfer amount target)
  | setData (key value : UInt64) :
      Encodes ([1] ++ toLeBytes key ++ toLeBytes value) (.setData key value)
  | increment (key delta : UInt64) :
      Encodes ([2] ++ toLeBytes key ++ toLeBytes delta) (.increment key delta)
  | noop : Encodes [3] .noop
  | unknown : Encodes ([4] ++ List.replicate 8 0xFF) (.unknown 4)

theorem generated_bytes (rng : Rng Source) (source : Source) :
    Encodes (generateInstruction rng source).1 (drawnInstruction rng source) := by
  unfold generateInstruction drawnInstruction
  cases rng.genRange .u8 0 5 (by decide) source with
  | mk opcode rest =>
      obtain ⟨value, above, below⟩ := opcode
      match value, below with
      | 0, _ => exact .transfer _ _
      | 1, _ => exact .setData _ _
      | 2, _ => exact .increment _ _
      | 3, _ => exact .noop
      | 4, _ => exact .unknown

theorem decode_encoded {data : List UInt8} {drawn : Instruction} (encodes : Encodes data drawn) :
    decode data = drawn := by
  cases encodes with
  | transfer amount target => exact decode_transfer_bytes amount target
  | setData key value => exact decode_set_data_bytes key value
  | increment key delta =>
      obtain ⟨first, second⟩ := operands_of_bytes key delta
      simp [decode, to_le_bytes_length, first, second]
  | noop => rfl
  | unknown => rfl

/-! ## Validation -/

theorem estimate_modest (rng : Rng Source) (source : Source) (priority : TransactionPriority) :
    (estimateCu rng source priority).1.toNat < 200001 := by
  have drawn (low high : Nat) (draw : Within low high) (least : high ≤ 200000) :
      draw.asU64.toNat < 200001 := by
    rw [draw_value draw (by omega)]
    have below := draw.below
    omega
  cases priority with
  | critical => exact drawn _ _ _ (by decide)
  | high => exact drawn _ _ _ (by decide)
  | normal => exact drawn _ _ _ (by decide)
  | low => exact drawn _ _ _ (by decide)

theorem encoded_nonempty {data : List UInt8} {drawn : Instruction}
    (encodes : Encodes data drawn) : data.isEmpty = false := by
  cases encodes <;> rfl

theorem validate_accepts (sender : tx.sender.isEmpty = false)
    (program : tx.programId.isEmpty = false) (filled : tx.instructionData.isEmpty = false)
    (affordable : ¬maxComputeBudget < tx.estimatedCu) : validate tx = .ok () := by
  rw [validate, sender, program, filled, if_neg affordable]
  rfl

/-! ## Execution -/

def SmallValues (state : State) : Prop :=
  ∀ (key : String) (value : UInt64), state[key]? = some value → value.toNat < 2 ^ 63

/-- The two reasons for which a generated instruction can fail. -/
def Declined (executor : DeterministicExecutor) (state : State) (sender : String) :
    Instruction → Prop
  | .transfer amount _ => balanceOf state sender < amount
  | .unknown _ => executor.failOnInvalid = true
  | _ => False

theorem balance_small {state : State} (small : SmallValues state) (key : String) :
    (balanceOf state key).toNat < 2 ^ 63 := by
  rw [balanceOf]
  cases held : state[key]? with
  | none => decide
  | some value => exact small key value held

theorem credit_fits {state : State} {sender : String} {amount : UInt64}
    (small : SmallValues state) (covered : amount ≤ balanceOf state sender) (target : String) :
    (balanceOf (state.insert sender (balanceOf state sender - amount)) target).toNat +
      amount.toNat < 2 ^ 64 := by
  have held := balance_small small sender
  have paid := UInt64.toNat_sub_of_le _ _ covered
  have modest := UInt64.le_iff_toNat_le.mp covered
  rw [balanceOf, insert_get]
  split_ifs with own
  · rw [Option.getD_some, paid]
    omega
  · have other := balance_small small target
    rw [balanceOf] at other
    omega

theorem encoded_executes {data : List UInt8} {drawn : Instruction} {state : State}
    (encodes : Encodes data drawn) (small : SmallValues state)
    (executor : DeterministicExecutor) (mode : OverflowMode) (sender : String) :
    ∃ next outcome, perform mode state sender drawn = some (next, outcome) ∧
      executeInstruction executor mode state sender data =
        some (next, executorReport executor drawn outcome) ∧
      ((∃ effects, executorReport executor drawn outcome = .ok effects) ↔
        ¬Declined executor state sender drawn) := by
  have reported := execute_instruction_reports executor mode state sender data
  rw [decode_encoded encodes] at reported
  suffices performed : ∃ next outcome, perform mode state sender drawn = some (next, outcome) ∧
      ((∃ effects, executorReport executor drawn outcome = .ok effects) ↔
        ¬Declined executor state sender drawn) by
    obtain ⟨next, outcome, ran, accepted⟩ := performed
    rw [ran] at reported
    exact ⟨next, outcome, ran, reported, accepted⟩
  cases encodes with
  | transfer amount target =>
      by_cases short : balanceOf state sender < amount
      · refine ⟨_, _, perform_of_performs (.overdrawn short), ?_⟩
        simp [executorReport, hostReport, Declined, short]
      · have covered := UInt64.not_lt.mp short
        have room := credit_fits small covered (accountKey target)
        have added := add_u64_exact mode _ _ room
        refine ⟨_, _, perform_of_performs (.transferred covered added), ?_⟩
        simp [executorReport, hostReport, Declined, covered]
  | setData key value =>
      exact ⟨_, _, rfl, by simp [executorReport, hostReport, Declined]⟩
  | increment key delta =>
      exact ⟨_, _, rfl, by simp [executorReport, hostReport, Declined]⟩
  | noop => exact ⟨_, _, rfl, by simp [executorReport, hostReport, Declined]⟩
  | unknown =>
      refine ⟨_, _, rfl, ?_⟩
      cases lenient : executor.failOnInvalid <;> simp [executorReport, Declined, lenient]

/-! ## Runs -/

/-- The clock stays below `2 ^ 64` over the next `count` transactions. -/
def TimesFit (rng : Rng Source) (mode : OverflowMode) : Nat → WorkloadGenerator Source → Prop
  | 0, _ => True
  | count + 1, generator =>
      (∀ delta priority source,
        generator.computeArrival rng mode = some ((delta, priority), source) →
          generator.currentTimeMs.toNat + delta.toNat < 2 ^ 64) ∧
      ∀ tx later, generator.next rng mode = some (some (tx, later)) →
        TimesFit rng mode count later

structure Made (rng : Rng Source) (generator : WorkloadGenerator Source) (tx : Transaction)
    (later : WorkloadGenerator Source) : Prop where
  named : tx.txId = workloadTxId generator.generated
  advanced : generator.currentTimeMs < tx.arrivalTs
  arrived : later.currentTimeMs = tx.arrivalTs
  counted : later.generated = generator.generated + 1
  same_count : later.txCount = generator.txCount
  same_interval : later.baseIntervalMs = generator.baseIntervalMs
  valid : validate tx = .ok ()
  drawn : ∃ source, tx.instructionData = (generateInstruction rng source).1

theorem next_made (modest : generator.baseIntervalMs.toNat < 2 ^ 62)
    (active : generator.generated < generator.txCount)
    (fits : ∀ delta priority source,
      generator.computeArrival rng mode = some ((delta, priority), source) →
        generator.currentTimeMs.toNat + delta.toNat < 2 ^ 64) :
    ∃ tx later, generator.next rng mode = some (some (tx, later)) ∧
      Made rng generator tx later := by
  obtain ⟨delta, priority, source, computed, moves⟩ := arrival_computed rng mode modest
  have room := fits delta priority source computed
  have clock := add_u64_exact mode _ _ room
  have advanced : generator.currentTimeMs < generator.currentTimeMs + delta := by
    rw [UInt64.lt_iff_toNat_lt, UInt64.toNat_add, Nat.mod_eq_of_lt room]
    omega
  -- The sources behind the sender, the program and the estimate.
  let afterSender := (rng.genRange .i32 0 100 (by decide) source).2
  let afterProgram := (rng.genRange .i32 0 5 (by decide) afterSender).2
  let afterEstimate := (estimateCu rng afterProgram priority).2
  have filled := encoded_nonempty (generated_bytes rng afterEstimate)
  have affordable : ¬maxComputeBudget < (estimateCu rng afterProgram priority).1 := by
    have cheap := estimate_modest rng afterProgram priority
    rw [UInt64.lt_iff_toNat_lt]
    change ¬1400000 < _
    omega
  rw [WorkloadGenerator.next, if_neg (Nat.not_le.mpr active), computed]
  simp only [bind, Option.bind_some, clock]
  refine ⟨_, _, rfl, ?_⟩
  exact
    { named := rfl
      advanced := advanced
      arrived := rfl
      counted := rfl
      same_count := rfl
      same_interval := rfl
      valid := validate_accepts (by simp [Transaction.new]) (by simp [Transaction.new]) filled
        affordable
      drawn := ⟨afterEstimate, rfl⟩ }

def namesFrom (first count : Nat) : List TransactionId :=
  (List.range' first count).map workloadTxId

theorem names_nodup (first count : Nat) : (namesFrom first count).Nodup := by
  apply List.Nodup.map
  · intro left right same
    have texts := congrArg TransactionId.asStr same
    exact padded_injective (by decide) (by decide) 6 ((String.append_right_inj _).mp texts)
  · exact List.nodup_range'

theorem collect_workload (generator : WorkloadGenerator Source) (count : Nat)
    (modest : generator.baseIntervalMs.toNat < 2 ^ 62) (left : generator.remaining = count)
    (fits : TimesFit rng mode count generator) :
    ∃ transactions,
      (∀ fuel, count < fuel → generator.collect rng mode fuel = some transactions) ∧
      transactions.map Transaction.txId = namesFrom generator.generated count ∧
      (generator.currentTimeMs :: transactions.map Transaction.arrivalTs).IsChain (· < ·) ∧
      ∀ tx ∈ transactions, validate tx = .ok () ∧
        ∃ source, tx.instructionData = (generateInstruction rng source).1 := by
  induction count generalizing generator with
  | zero =>
      refine ⟨[], ?_, rfl, .singleton _, by simp⟩
      intro fuel enough
      obtain ⟨calls, rfl⟩ := Nat.exists_eq_succ_of_ne_zero (Nat.pos_iff_ne_zero.mp enough)
      have finished : generator.next rng mode = some none := if_pos (Nat.sub_eq_zero_iff_le.mp left)
      rw [WorkloadGenerator.collect, finished]
      rfl
  | succ count ih =>
      obtain ⟨room, onward⟩ := fits
      rw [WorkloadGenerator.remaining] at left
      obtain ⟨tx, later, stepped, made⟩ := next_made modest (by omega) room
      have laterModest : later.baseIntervalMs.toNat < 2 ^ 62 := by
        rw [made.same_interval]
        exact modest
      have laterLeft : later.remaining = count := by
        rw [WorkloadGenerator.remaining, made.counted, made.same_count]
        omega
      obtain ⟨rest, collected, names, times, others⟩ :=
        ih later laterModest laterLeft (onward tx later stepped)
      refine ⟨tx :: rest, ?_, ?_, ?_, ?_⟩
      · intro fuel enough
        obtain ⟨calls, rfl⟩ := Nat.exists_eq_succ_of_ne_zero (Nat.ne_zero_of_lt enough)
        rw [WorkloadGenerator.collect, stepped]
        simp only [bind, Option.bind_some, collected calls (Nat.lt_of_succ_lt_succ enough)]
      · rw [List.map_cons, names, made.named, made.counted]
        rfl
      · rw [made.arrived] at times
        exact .cons_cons made.advanced times
      · intro other member
        cases List.mem_cons.mp member with
        | inl same =>
            subst same
            exact ⟨made.valid, made.drawn⟩
        | inr further => exact others other further

/-- The contract of the generator and the agreement of its bytes with the executor. -/
theorem generated_workload_contract (rng : Rng Source) (mode : OverflowMode)
    (scenario : Scenario) (txCount : Nat) (seed baseIntervalMs : UInt64)
    (modest : baseIntervalMs.toNat < 2 ^ 62)
    (fits : TimesFit rng mode txCount (.new rng scenario txCount seed baseIntervalMs)) :
    ∃ transactions,
      (∀ fuel, txCount < fuel →
        (WorkloadGenerator.new rng scenario txCount seed baseIntervalMs).collect rng mode fuel =
          some transactions) ∧
      transactions.length = txCount ∧
      (transactions.map Transaction.txId).Nodup ∧
      (transactions.map Transaction.arrivalTs).Pairwise (· < ·) ∧
      ∀ tx ∈ transactions, validate tx = .ok () ∧
        ∃ source, tx.instructionData = (generateInstruction rng source).1 ∧
          decode tx.instructionData = drawnInstruction rng source ∧
          ∀ (executor : DeterministicExecutor) (hostMode : OverflowMode) (state : State),
            SmallValues state →
            ∃ next outcome,
              perform hostMode state tx.sender (drawnInstruction rng source) =
                some (next, outcome) ∧
              executeInstruction executor hostMode state tx.sender tx.instructionData =
                some (next, executorReport executor (drawnInstruction rng source) outcome) ∧
              ((∃ effects, executorReport executor (drawnInstruction rng source) outcome =
                  .ok effects) ↔
                ¬Declined executor state tx.sender (drawnInstruction rng source)) := by
  obtain ⟨transactions, collected, names, times, each⟩ :=
    collect_workload (.new rng scenario txCount seed baseIntervalMs) txCount modest
      rfl fits
  refine ⟨transactions, collected, ?_, ?_, ?_, ?_⟩
  · have counted := congrArg List.length names
    simpa [namesFrom] using counted
  · rw [names]
    exact names_nodup _ _
  · exact (List.isChain_iff_pairwise.mp times).of_cons
  · intro tx member
    obtain ⟨valid, source, drawn⟩ := each tx member
    have encodes := generated_bytes rng source
    rw [← drawn] at encodes
    refine ⟨valid, source, drawn, decode_encoded encodes, ?_⟩
    intro executor hostMode state small
    exact encoded_executes encodes small executor hostMode tx.sender

def countingRng : Rng Nat where
  seedFromU64 seed := seed.toNat
  genRange _ low high nonempty source :=
    (⟨low + source % (high - low), Nat.le_add_right _ _, by
      have small := Nat.mod_lt source (Nat.sub_pos_of_lt nonempty)
      omega⟩, source + 1)
  genBool _ source := (source % 2 == 0, source + 1)
  genU64 source := (UInt64.ofNat source, source + 1)
  sampleExp _ source := (.finite source (Nat.cast_nonneg source), source + 1)

def steadyStart : WorkloadGenerator Nat := .new countingRng .steady 2 3 10

theorem steady_times_fit : TimesFit countingRng .panicking 2 steadyStart := by
  constructor
  · intro delta priority source computed
    cases computed
    decide
  · intro tx later stepped
    cases stepped
    constructor
    · intro delta priority source computed
      cases computed
      decide
    · intro tx later stepped
      trivial

theorem two_steady_transactions : ∃ transactions,
    steadyStart.collect countingRng .panicking 3 = some transactions ∧
      transactions.length = 2 ∧ (transactions.map Transaction.txId).Nodup := by
  obtain ⟨transactions, collected, count, distinct, -⟩ :=
    generated_workload_contract countingRng .panicking .steady 2 3 10 (by decide)
      steady_times_fit
  exact ⟨transactions, collected 3 (by decide), count, distinct⟩

end CatalystSvm.GeneratedWorkloads
