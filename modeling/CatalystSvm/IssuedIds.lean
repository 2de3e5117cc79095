import Mathlib.Data.List.Nodup
import CatalystSvm.Library.PaddedNumerals
import CatalystSvm.Library.PathNames
import CatalystSvm.MachineArithmetic

/-!
# Counters and the identifiers printed from them

Transactions and batches are named after a `u64` counter that starts at zero and
is incremented before each use. Fewer than `2 ^ 64` uses give distinct names,
although the printed numbers outgrow their pad width.
-/

namespace CatalystSvm.IssuedIds

open CatalystSvm.MachineArithmetic CatalystSvm.Library.PaddedNumerals
open CatalystSvm.Library.PathNames

set_option autoImplicit false

def formatTxId (counter : UInt64) : String :=
  "tx_" ++ padded 16 8 counter.toNat

def formatBatchId (counter : UInt64) : String :=
  "batch_" ++ padded 10 6 counter.toNat

theorem format_tx_id_injective : Function.Injective formatTxId := by
  intro left right same
  have numbers := padded_injective (by decide) (by decide) 8 ((String.append_right_inj _).mp same)
  exact UInt64.toNat_inj.mp numbers

theorem format_batch_id_injective : Function.Injective formatBatchId := by
  intro left right same
  have numbers := padded_injective (by decide) (by decide) 6 ((String.append_right_inj _).mp same)
  exact UInt64.toNat_inj.mp numbers

theorem format_batch_id_plain (counter : UInt64) : Plain (formatBatchId counter) := by
  apply plain_append (by decide)
  intro slash
  rw [padded, String.toList_ofList] at slash
  exact absurd (padded_digits_decimal (by decide) (by decide) slash) (by decide)

/-- The names given out by a counter that was incremented `count` times. -/
def issued (format : UInt64 → String) (count : Nat) : List String :=
  (List.range count).map fun earlier => format (UInt64.ofNat (earlier + 1))

theorem issued_length (format : UInt64 → String) (count : Nat) :
    (issued format count).length = count := by
  simp [issued]

theorem issued_succ (format : UInt64 → String) (count : Nat) :
    issued format (count + 1) = issued format count ++ [format (UInt64.ofNat (count + 1))] := by
  simp [issued, List.range_succ]

theorem issued_get (format : UInt64 → String) {count index : Nat} (bound : index < count) :
    (issued format count)[index]? = some (format (UInt64.ofNat (index + 1))) := by
  simp [issued, List.getElem?_range bound]

theorem issued_nodup {format : UInt64 → String} (injective : Function.Injective format)
    {count : Nat} (few : count < 2 ^ 64) : (issued format count).Nodup := by
  refine List.Nodup.map_on ?_ List.nodup_range
  intro left leftBound right rightBound same
  rw [List.mem_range] at leftBound rightBound
  have counters := congrArg UInt64.toNat (injective same)
  rw [UInt64.toNat_ofNat', UInt64.toNat_ofNat'] at counters
  omega

/-- The counter comes back to its first value, and with it the first name. -/
theorem issued_repeats (format : UInt64 → String) {count : Nat} (many : 2 ^ 64 < count) :
    ¬(issued format count).Nodup := by
  intro distinct
  have positive : 0 < count := Nat.lt_trans (by decide) many
  have first := issued_get format positive
  have again := issued_get format many
  have wrapped : UInt64.ofNat (2 ^ 64 + 1) = UInt64.ofNat (0 + 1) := by decide
  rw [wrapped, ← first] at again
  have bound : 2 ^ 64 < (issued format count).length := by rwa [issued_length]
  have same := (List.getElem?_inj bound distinct).mp again
  exact absurd same (by decide)

end CatalystSvm.IssuedIds
