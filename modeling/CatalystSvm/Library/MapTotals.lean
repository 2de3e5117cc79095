import Mathlib.Algebra.BigOperators.Group.Finset.Basic
import Mathlib.Algebra.Order.BigOperators.Group.Finset
import Std.Data.ExtTreeMap

/-!
# Totals over an ordered map

The values of a map are weighed and added up over the keys that satisfy a
predicate. Storing a value changes the total by the new weight minus the
replaced one, which is stated here additively.
-/

namespace CatalystSvm.Library.MapTotals

open Std

set_option autoImplicit false

variable {Key Value : Type*} {cmp : Key → Key → Ordering} [TransCmp cmp]

def worth (weight : Value → Nat) (map : ExtTreeMap Key Value cmp) (key : Key) : Nat :=
  map[key]?.elim 0 weight

variable {weight : Value → Nat} {map : ExtTreeMap Key Value cmp}

theorem worth_of_not_mem {key : Key} (missing : key ∉ map) : worth weight map key = 0 := by
  rw [worth, ExtTreeMap.getElem?_eq_none missing]
  rfl

variable [DecidableEq Key]

def keptKeys (keep : Key → Prop) [DecidablePred keep] (map : ExtTreeMap Key Value cmp) :
    Finset Key :=
  map.keys.toFinset.filter keep

def total (keep : Key → Prop) [DecidablePred keep] (weight : Value → Nat)
    (map : ExtTreeMap Key Value cmp) : Nat :=
  ∑ key ∈ keptKeys keep map, worth weight map key

variable {keep : Key → Prop} [DecidablePred keep] [LawfulEqCmp cmp]

theorem mem_kept_keys {key : Key} : key ∈ keptKeys keep map ↔ key ∈ map ∧ keep key := by
  simp [keptKeys]

theorem worth_insert (key other : Key) (value : Value) :
    worth weight (map.insert key value) other =
      if key = other then weight value else worth weight map other := by
  unfold worth
  rw [ExtTreeMap.getElem?_insert]
  simp only [LawfulEqCmp.compare_eq_iff_eq]
  split_ifs <;> rfl

/-- Further kept keys add nothing. -/
theorem total_eq_sum {domain : Finset Key} (covers : keptKeys keep map ⊆ domain)
    (kept : ∀ key ∈ domain, keep key) :
    total keep weight map = ∑ key ∈ domain, worth weight map key := by
  apply Finset.sum_subset covers
  intro key member outside
  apply worth_of_not_mem
  intro present
  exact outside (mem_kept_keys.mpr ⟨present, kept key member⟩)

theorem total_insert_of_not {key : Key} (dropped : ¬keep key) (value : Value) :
    total keep weight (map.insert key value) = total keep weight map := by
  have sameKeys : keptKeys keep (map.insert key value) = keptKeys keep map := by
    ext other
    simp only [mem_kept_keys, ExtTreeMap.mem_insert, LawfulEqCmp.compare_eq_iff_eq]
    constructor
    · intro held
      rcases held with ⟨isKey | old, kept⟩
      · rw [← isKey] at kept
        exact absurd kept dropped
      · exact ⟨old, kept⟩
    · intro held
      exact ⟨.inr held.1, held.2⟩
  rw [total, total, sameKeys]
  apply Finset.sum_congr rfl
  intro other member
  have different : key ≠ other := by
    intro same
    rw [same] at dropped
    exact dropped (mem_kept_keys.mp member).2
  rw [worth_insert, if_neg different]

theorem total_insert {key : Key} (kept : keep key) (value : Value) :
    total keep weight (map.insert key value) + worth weight map key =
      total keep weight map + weight value := by
  let domain := insert key (keptKeys keep map)
  have allKept : ∀ other ∈ domain, keep other := by
    intro other member
    rcases Finset.mem_insert.mp member with same | old
    · rw [same]
      exact kept
    · exact (mem_kept_keys.mp old).2
  have coversNew : keptKeys keep (map.insert key value) ⊆ domain := by
    intro other member
    rw [mem_kept_keys, ExtTreeMap.mem_insert, LawfulEqCmp.compare_eq_iff_eq] at member
    rcases member with ⟨isKey | old, keptOther⟩
    · exact Finset.mem_insert.mpr (.inl isKey.symm)
    · exact Finset.mem_insert_of_mem (mem_kept_keys.mpr ⟨old, keptOther⟩)
  have member : key ∈ domain := Finset.mem_insert_self _ _
  have others : ∑ other ∈ domain.erase key, worth weight (map.insert key value) other =
      ∑ other ∈ domain.erase key, worth weight map other := by
    apply Finset.sum_congr rfl
    intro other inside
    rw [worth_insert, if_neg (Finset.ne_of_mem_erase inside).symm]
  rw [total_eq_sum coversNew allKept,
    total_eq_sum (Finset.subset_insert key (keptKeys keep map)) allKept,
    ← Finset.add_sum_erase domain _ member, ← Finset.add_sum_erase domain _ member, others,
    worth_insert, if_pos rfl]
  omega

/-- No kept entry weighs more than all of them. -/
theorem worth_le_total {key : Key} (kept : keep key) :
    worth weight map key ≤ total keep weight map := by
  by_cases present : key ∈ map
  · exact Finset.single_le_sum (f := worth weight map) (fun _ _ => Nat.zero_le _)
      (mem_kept_keys.mpr ⟨present, kept⟩)
  · rw [worth_of_not_mem present]
    exact Nat.zero_le _

end CatalystSvm.Library.MapTotals
