import CatalystSvm.Library.FlooredAverages
import CatalystSvm.BatchPolicy

/-!
# The latency average of the adaptive policy

`observe_latency` keeps seven tenths of the average and takes three tenths of the
observation, in `u64`. Ten times the largest observation must fit; then nothing
overflows and the average is the truncated one of the natural numbers.
-/

namespace CatalystSvm.LatencyAverage

open CatalystSvm.MachineArithmetic CatalystSvm.BatchPolicy
open CatalystSvm.Library.FlooredAverages

set_option autoImplicit false

def observeEach (mode : OverflowMode) (policy : AdaptivePolicy) (latencies : List UInt64) :
    Option AdaptivePolicy :=
  latencies.foldlM (AdaptivePolicy.observeLatency mode) policy

def Within (bound : Nat) (latencies : List UInt64) : Prop :=
  ∀ latency ∈ latencies, latency.toNat ≤ bound

/-- What the average does as long as ten times the bound is a `u64`. -/
structure AverageContract (bound : Nat) : Prop where
  never_overflows : ∀ (mode : OverflowMode) (policy : AdaptivePolicy) (latencies : List UInt64),
    policy.observedLatencyMs.toNat ≤ bound → Within bound latencies →
    ∃ after, observeEach mode policy latencies = some after ∧
      after.observedLatencyMs.toNat ≤ bound
  between : ∀ (mode : OverflowMode) (policy after : AdaptivePolicy) (latency : UInt64),
    policy.observedLatencyMs.toNat ≤ bound → latency.toNat ≤ bound →
    policy.observeLatency mode latency = some after →
    min policy.observedLatencyMs.toNat latency.toNat ≤ after.observedLatencyMs.toNat ∧
      after.observedLatencyMs.toNat ≤ max policy.observedLatencyMs.toNat latency.toNat
  monotone : ∀ (mode : OverflowMode) (policy after otherAfter : AdaptivePolicy)
    (latencies others : List UInt64), policy.observedLatencyMs.toNat ≤ bound →
    Within bound latencies → Within bound others → List.Forall₂ (· ≤ ·) latencies others →
    observeEach mode policy latencies = some after →
    observeEach mode policy others = some otherAfter →
    after.observedLatencyMs ≤ otherAfter.observedLatencyMs
  constant : ∀ (mode : OverflowMode) (policy : AdaptivePolicy) (latency : UInt64),
    policy.observedLatencyMs.toNat ≤ bound → latency.toNat ≤ bound →
    ∃ average : Nat → UInt64, (∀ count, (observeEach mode policy
        (List.replicate count latency)).map AdaptivePolicy.observedLatencyMs =
          some (average count)) ∧
      (latency ≤ policy.observedLatencyMs →
        (∀ count, latency ≤ average (count + 1) ∧ average (count + 1) ≤ average count) ∧
        ∃ settled, ∀ count, settled ≤ count → average count = latency) ∧
      (policy.observedLatencyMs < latency →
        (∀ count, average count ≤ average (count + 1) ∧ average (count + 1) ≤ latency) ∧
        ∃ settled, ∀ count, settled ≤ count →
          (average count).toNat = max policy.observedLatencyMs.toNat (latency.toNat - 3))

section Observations

variable {policy : AdaptivePolicy} {bound : Nat}

theorem observe_latency_exact (mode : OverflowMode) {latency : UInt64}
    (small : 10 * bound < 2 ^ 64) (starts : policy.observedLatencyMs.toNat ≤ bound)
    (bounded : latency.toNat ≤ bound) :
    ∃ after, policy.observeLatency mode latency = some after ∧
      after.observedLatencyMs.toNat =
        flooredAverage 7 3 policy.observedLatencyMs.toNat latency.toNat := by
  have seven : (7 : UInt64).toNat = 7 := rfl
  have three : (3 : UInt64).toNat = 3 := rfl
  have keptFits : policy.observedLatencyMs.toNat * (7 : UInt64).toNat < 2 ^ 64 := by
    rw [seven]
    omega
  have addedFits : latency.toNat * (3 : UInt64).toNat < 2 ^ 64 := by
    rw [three]
    omega
  have kept : (policy.observedLatencyMs * 7).toNat = policy.observedLatencyMs.toNat * 7 := by
    rw [UInt64.toNat_mul, Nat.mod_eq_of_lt keptFits, seven]
  have added : (latency * 3).toNat = latency.toNat * 3 := by
    rw [UInt64.toNat_mul, Nat.mod_eq_of_lt addedFits, three]
  have totalFits : (policy.observedLatencyMs * 7).toNat + (latency * 3).toNat < 2 ^ 64 := by
    omega
  rw [AdaptivePolicy.observeLatency, mul_u64_exact mode _ _ keptFits,
    mul_u64_exact mode _ _ addedFits]
  simp only [bind, Option.bind_some]
  rw [add_u64_exact mode _ _ totalFits, Option.bind_some]
  refine ⟨_, rfl, ?_⟩
  rw [UInt64.toNat_div, UInt64.toNat_add, Nat.mod_eq_of_lt totalFits, kept, added, flooredAverage,
    Nat.mul_comm 7, Nat.mul_comm 3]
  rfl

theorem observe_each_exact (mode : OverflowMode) {latencies : List UInt64}
    (small : 10 * bound < 2 ^ 64) (starts : policy.observedLatencyMs.toNat ≤ bound)
    (bounded : Within bound latencies) :
    ∃ after, observeEach mode policy latencies = some after ∧
      after.observedLatencyMs.toNat =
        averageAll 7 3 policy.observedLatencyMs.toNat (latencies.map UInt64.toNat) := by
  induction latencies generalizing policy with
  | nil => exact ⟨policy, rfl, rfl⟩
  | cons latency rest ih =>
      have first := bounded latency (by simp)
      obtain ⟨next, observed, value⟩ := observe_latency_exact mode small starts first
      have kept : next.observedLatencyMs.toNat ≤ bound := by
        rw [value]
        exact le_trans (average_between (by decide) _ _).2 (Nat.max_le.mpr ⟨starts, first⟩)
      obtain ⟨after, continued, final⟩ :=
        ih kept (fun later member => bounded later (by simp [member]))
      use after
      constructor
      · rw [observeEach, List.foldlM_cons, observed]
        exact continued
      · rw [final, value]
        rfl

theorem within_replicate {latency : UInt64} (bounded : latency.toNat ≤ bound) (count : Nat) :
    Within bound (List.replicate count latency) := by
  intro later member
  rw [List.eq_of_mem_replicate member]
  exact bounded

end Observations

theorem latency_average_contract (bound : Nat) (small : 10 * bound < 2 ^ 64) :
    AverageContract bound where
  never_overflows := by
    intro mode policy latencies starts bounded
    obtain ⟨after, observed, value⟩ := observe_each_exact mode small starts bounded
    refine ⟨after, observed, ?_⟩
    rw [value]
    apply average_all_bounded (by decide) starts
    intro sample member
    obtain ⟨latency, listed, rfl⟩ := List.mem_map.mp member
    exact bounded latency listed
  between := by
    intro mode policy after latency starts bounded observed
    obtain ⟨next, again, value⟩ := observe_latency_exact mode small starts bounded
    rw [observed, Option.some.injEq] at again
    rw [again, value]
    exact average_between (by decide) _ _
  monotone := by
    intro mode policy after otherAfter latencies others starts bounded otherBounded pointwise
      observed otherObserved
    obtain ⟨next, again, value⟩ := observe_each_exact mode small starts bounded
    obtain ⟨otherNext, otherAgain, otherValue⟩ :=
      observe_each_exact mode small starts otherBounded
    rw [observed, Option.some.injEq] at again
    rw [otherObserved, Option.some.injEq] at otherAgain
    rw [UInt64.le_iff_toNat_le, again, otherAgain, value, otherValue]
    apply average_all_monotone le_rfl
    rw [List.forall₂_map_left_iff, List.forall₂_map_right_iff]
    exact pointwise.imp fun _ _ smaller => UInt64.le_iff_toNat_le.mp smaller
  constant := by
    intro mode policy latency starts bounded
    have exact (count : Nat) :=
      observe_each_exact mode small starts (within_replicate bounded count)
    choose after observed value using exact
    simp only [List.map_replicate] at value
    refine ⟨fun count => (after count).observedLatencyMs, ?_, ?_, ?_⟩
    · intro count
      rw [observed, Option.map_some]
    · intro above
      obtain ⟨falls, settled, constant⟩ := constant_samples_above 7 (by decide : 0 < 3)
        (UInt64.le_iff_toNat_le.mp above)
      simp only [← value] at falls constant
      constructor
      · intro count
        rw [UInt64.le_iff_toNat_le, UInt64.le_iff_toNat_le]
        exact falls count
      · use settled
        intro count reached
        exact UInt64.toNat_inj.mp (constant count reached)
    · intro below
      have lower : policy.observedLatencyMs.toNat ≤ latency.toNat :=
        Nat.le_of_lt (UInt64.lt_iff_toNat_lt.mp below)
      obtain ⟨rises, settled, constant⟩ :=
        constant_samples_below 7 (by decide : 0 < 3) lower
      simp only [← value] at rises constant
      constructor
      · intro count
        rw [UInt64.le_iff_toNat_le, UInt64.le_iff_toNat_le]
        exact rises count
      · exact ⟨settled, constant⟩

/-- Under a constant half second an average that starts at rest stops three short of it. -/
theorem half_second_average :
    ∃ settled, ∀ count, settled ≤ count → ∃ after, observeEach .panicking
        (.new 10 100 1000 2000) (List.replicate count 500) = some after ∧
      after.observedLatencyMs.toNat = 497 := by
  have contract := latency_average_contract 1000 (by decide)
  obtain ⟨average, observed, _, below⟩ :=
    contract.constant .panicking (.new 10 100 1000 2000) 500 (by decide) (by decide)
  obtain ⟨_, settled, constant⟩ := below (by decide)
  use settled
  intro count reached
  obtain ⟨after, taken, value⟩ := Option.map_eq_some_iff.mp (observed count)
  refine ⟨after, taken, ?_⟩
  rw [value, constant count reached]
  decide

end CatalystSvm.LatencyAverage
