import Mathlib.Algebra.GroupWithZero.Nat
import Mathlib.Data.List.Basic
import Mathlib.Algebra.BigOperators.Group.List.Basic

/-!
# `u64` arithmetic under both overflow readings

Rust compiles `+`, `-` and `*` on `u64` in two ways: the release profile wraps,
the dev profile panics. The host crates and the guest program are compiled
separately, so the reading is an explicit parameter of every modelled function
that computes on `u64`; `none` is the panic. Nothing in this module knows about
ledgers or traces.
-/

namespace CatalystSvm.MachineArithmetic

set_option autoImplicit false

inductive OverflowMode where
  | wrapping
  | panicking
  deriving DecidableEq, Repr

def addU64 (mode : OverflowMode) (left right : UInt64) : Option UInt64 :=
  match mode with
  | .wrapping => some (left + right)
  | .panicking => if left.toNat + right.toNat < 2 ^ 64 then some (left + right) else none

def subU64 (mode : OverflowMode) (left right : UInt64) : Option UInt64 :=
  match mode with
  | .wrapping => some (left - right)
  | .panicking => if right ≤ left then some (left - right) else none

def mulU64 (mode : OverflowMode) (left right : UInt64) : Option UInt64 :=
  match mode with
  | .wrapping => some (left * right)
  | .panicking => if left.toNat * right.toNat < 2 ^ 64 then some (left * right) else none

def saturatingAdd (left right : UInt64) : UInt64 :=
  if left.toNat + right.toNat < 2 ^ 64 then left + right else UInt64.ofNat (2 ^ 64 - 1)

def saturatingSub (left right : UInt64) : UInt64 :=
  if right ≤ left then left - right else 0

/-- `u64::from_le_bytes`; every caller passes exactly eight bytes. -/
def fromLeBytes (bytes : List UInt8) : UInt64 :=
  UInt64.ofNat (bytes.foldr (fun byte rest => byte.toNat + 256 * rest) 0)

/-- The low bytes of a number, the lowest first. -/
def lowBytes : Nat → Nat → List UInt8
  | 0, _ => []
  | count + 1, value => UInt8.ofNat value :: lowBytes count (value / 256)

def toLeBytes (value : UInt64) : List UInt8 := lowBytes 8 value.toNat

theorem low_bytes_value (count value : Nat) :
    (lowBytes count value).foldr (fun byte rest => byte.toNat + 256 * rest) 0 =
      value % 256 ^ count := by
  induction count generalizing value with
  | zero => simp [lowBytes, Nat.mod_one]
  | succ count ih =>
      have cut : value % 256 ^ (count + 1) = value % 256 + 256 * (value / 256 % 256 ^ count) := by
        rw [Nat.pow_succ', Nat.mod_mul]
      rw [lowBytes, List.foldr_cons, ih, UInt8.toNat_ofNat', cut]

theorem to_le_bytes_length (value : UInt64) : (toLeBytes value).length = 8 := by
  simp [toLeBytes, lowBytes]

theorem from_le_bytes_to_le_bytes (value : UInt64) : fromLeBytes (toLeBytes value) = value := by
  have small : value.toNat % 256 ^ 8 = value.toNat := Nat.mod_eq_of_lt value.toNat_lt
  rw [fromLeBytes, toLeBytes, low_bytes_value, small, UInt64.ofNat_toNat]

/-- A guarded subtraction never panics: the transfer path checks the balance first. -/
theorem sub_u64_of_le (mode : OverflowMode) (left right : UInt64) (covered : right ≤ left) :
    subU64 mode left right = some (left - right) := by
  cases mode with
  | wrapping => rfl
  | panicking => simp [subU64, covered]

theorem add_u64_exact (mode : OverflowMode) (left right : UInt64)
    (fits : left.toNat + right.toNat < 2 ^ 64) :
    addU64 mode left right = some (left + right) := by
  cases mode with
  | wrapping => rfl
  | panicking => rw [addU64, if_pos fits]

theorem mul_u64_exact (mode : OverflowMode) (left right : UInt64)
    (fits : left.toNat * right.toNat < 2 ^ 64) :
    mulU64 mode left right = some (left * right) := by
  cases mode with
  | wrapping => rfl
  | panicking => rw [mulU64, if_pos fits]

theorem add_u64_value {mode : OverflowMode} {left right sum : UInt64}
    (added : addU64 mode left right = some sum) : sum = left + right := by
  cases mode with
  | wrapping => exact (Option.some.inj added).symm
  | panicking =>
      rw [addU64] at added
      split_ifs at added
      exact (Option.some.inj added).symm

theorem add_u64_panicking {left right sum : UInt64}
    (added : addU64 .panicking left right = some sum) :
    sum.toNat = left.toNat + right.toNat := by
  rw [addU64] at added
  split_ifs at added with fits
  rw [← Option.some.inj added, UInt64.toNat_add, Nat.mod_eq_of_lt fits]

/-- A counter that has counted `count` times moves on to the next count, unless it panics. -/
theorem add_u64_one {mode : OverflowMode} {counter next : UInt64} {count : Nat}
    (counted : counter = UInt64.ofNat count) (added : addU64 mode counter 1 = some next) :
    next = UInt64.ofNat (count + 1) := by
  rw [add_u64_value added, counted, UInt64.ofNat_add]
  rfl

theorem saturating_sub_to_nat (left right : UInt64) :
    (saturatingSub left right).toNat = left.toNat - right.toNat := by
  unfold saturatingSub
  split_ifs with covered
  · exact UInt64.toNat_sub_of_le _ _ covered
  · rw [UInt64.le_iff_toNat_le] at covered
    rw [UInt64.toNat_zero]
    omega

theorem saturating_add_self_iff {left right : UInt64} (room : left.toNat + 1 < 2 ^ 64) :
    saturatingAdd left right = left ↔ right = 0 := by
  rw [← UInt64.toNat_inj, ← UInt64.toNat_inj, UInt64.toNat_zero, saturatingAdd]
  split_ifs with fits
  · rw [UInt64.toNat_add, Nat.mod_eq_of_lt fits]
    omega
  · change 2 ^ 64 - 1 = _ ↔ _
    omega

def accumulate (mode : OverflowMode) (start : UInt64) (terms : List UInt64) : Option UInt64 :=
  terms.foldlM (addU64 mode) start

theorem accumulate_cons (mode : OverflowMode) (start term : UInt64) (rest : List UInt64) :
    accumulate mode start (term :: rest) =
      (addU64 mode start term).bind fun next => accumulate mode next rest := rfl

theorem accumulate_exact (mode : OverflowMode) (start : UInt64) (terms : List UInt64)
    (fits : start.toNat + (terms.map UInt64.toNat).sum < 2 ^ 64) :
    ∃ total, accumulate mode start terms = some total ∧
      total.toNat = start.toNat + (terms.map UInt64.toNat).sum := by
  induction terms generalizing start with
  | nil => exact ⟨start, rfl, by simp⟩
  | cons term rest ih =>
      simp only [List.map_cons, List.sum_cons] at fits ⊢
      have headFits : start.toNat + term.toNat < 2 ^ 64 := by omega
      have head : (start + term).toNat = start.toNat + term.toNat := by
        rw [UInt64.toNat_add]
        exact Nat.mod_eq_of_lt headFits
      rcases ih (start + term) (by rw [head]; omega) with ⟨total, ran, value⟩
      refine ⟨total, ?_, by rw [value, head]; omega⟩
      rw [accumulate_cons, add_u64_exact mode start term headFits]
      exact ran

theorem add_u64_swap (mode : OverflowMode) (start left right : UInt64) :
    ((addU64 mode start left).bind fun next => addU64 mode next right) =
      (addU64 mode start right).bind fun next => addU64 mode next left := by
  have sums : start + left + right = start + right + left := by
    rw [UInt64.add_assoc, UInt64.add_comm left right, ← UInt64.add_assoc]
  cases mode with
  | wrapping => exact congrArg some sums
  | panicking =>
      simp only [addU64]
      by_cases fits : start.toNat + left.toNat + right.toNat < 2 ^ 64
      · have early : start.toNat + left.toNat < 2 ^ 64 := by omega
        have late : start.toNat + right.toNat < 2 ^ 64 := by omega
        rw [if_pos early, if_pos late, Option.bind_some, Option.bind_some, UInt64.toNat_add,
          UInt64.toNat_add, Nat.mod_eq_of_lt early, Nat.mod_eq_of_lt late, if_pos fits, sums,
          if_pos (by omega)]
      · have fails (first second : UInt64)
            (total : start.toNat + first.toNat + second.toNat =
              start.toNat + left.toNat + right.toNat) :
            ((if start.toNat + first.toNat < 2 ^ 64 then some (start + first) else none).bind
              fun next => if next.toNat + second.toNat < 2 ^ 64 then some (next + second)
                else none) = none := by
          split_ifs with early
          · rw [Option.bind_some, UInt64.toNat_add, Nat.mod_eq_of_lt early, if_neg (by omega)]
          · rfl
        rw [fails left right rfl, fails right left (by omega)]

/-- The order of the terms decides neither the sum nor whether it panics. -/
theorem accumulate_perm (mode : OverflowMode) {terms others : List UInt64}
    (permuted : terms.Perm others) (start : UInt64) :
    accumulate mode start terms = accumulate mode start others := by
  induction permuted generalizing start with
  | nil => rfl
  | cons term permuted ih =>
      rw [accumulate_cons, accumulate_cons]
      exact congrArg _ (funext fun next => ih next)
  | swap left right rest =>
      simp only [accumulate_cons, ← Option.bind_assoc, add_u64_swap mode start left right]
  | trans first second ihFirst ihSecond => rw [ihFirst, ihSecond]

theorem accumulate_checked {start total : UInt64} {terms : List UInt64}
    (added : accumulate .panicking start terms = some total) (mode : OverflowMode) :
    accumulate mode start terms = some total := by
  induction terms generalizing start with
  | nil => exact added
  | cons term rest ih =>
      rw [accumulate_cons, Option.bind_eq_some_iff] at added
      obtain ⟨next, first, others⟩ := added
      have sum := add_u64_panicking first
      have fits : start.toNat + term.toNat < 2 ^ 64 := sum ▸ next.toNat_lt
      rw [accumulate_cons, add_u64_exact mode start term fits, ← add_u64_value first,
        Option.bind_some, ih others]

theorem accumulate_wrapping_total (start : UInt64) (terms : List UInt64) :
    ∃ total, accumulate .wrapping start terms = some total := by
  induction terms generalizing start with
  | nil => exact ⟨start, rfl⟩
  | cons term rest ih => exact ih (start + term)

end CatalystSvm.MachineArithmetic
