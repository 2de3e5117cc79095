import Mathlib.Data.List.Basic
import Std.Data.String.ToNat

/-!
# Reading fields back out of formatted text

Lemmas for texts built by concatenation: a field of known length, a field that
ends at the first occurrence of a mark, a field that starts after the last one,
and decimal numbers, which contain neither punctuation nor leading ambiguity.
-/

namespace CatalystSvm.Library.TextFraming

set_option autoImplicit false

theorem append_split_of_length {left right leftRest rightRest : String}
    (lengths : left.length = right.length) (same : left ++ leftRest = right ++ rightRest) :
    left = right ∧ leftRest = rightRest := by
  have chars := congrArg String.toList same
  rw [String.toList_append, String.toList_append] at chars
  obtain ⟨heads, tails⟩ := List.append_inj chars
    (by rw [String.length_toList, String.length_toList, lengths])
  exact ⟨String.toList_inj.mp heads, String.toList_inj.mp tails⟩

/-- A character list up to the first `mark`. -/
theorem split_at_first_mark {mark : Char} {left right leftRest rightRest : List Char}
    (leftFree : mark ∉ left) (rightFree : mark ∉ right)
    (same : left ++ mark :: leftRest = right ++ mark :: rightRest) :
    left = right ∧ leftRest = rightRest := by
  induction left generalizing right with
  | nil =>
      cases right with
      | nil => simpa using same
      | cons head tail =>
          simp only [List.nil_append, List.cons_append, List.cons.injEq] at same
          exact absurd same.1 (fun equal => rightFree (by simp [equal]))
  | cons head tail ih =>
      cases right with
      | nil =>
          simp only [List.nil_append, List.cons_append, List.cons.injEq] at same
          exact absurd same.1 (fun equal => leftFree (by simp [equal]))
      | cons other rest =>
          simp only [List.cons_append, List.cons.injEq] at same
          obtain ⟨tails, rests⟩ := ih (fun member => leftFree (by simp [member]))
            (fun member => rightFree (by simp [member])) same.2
          exact ⟨by rw [same.1, tails], rests⟩

/-- A character list after the last `mark`. -/
theorem split_at_last_mark {mark : Char} {left right leftRest rightRest : List Char}
    (leftFree : mark ∉ leftRest) (rightFree : mark ∉ rightRest)
    (same : left ++ mark :: leftRest = right ++ mark :: rightRest) :
    left = right ∧ leftRest = rightRest := by
  have reversed := congrArg List.reverse same
  simp only [List.reverse_append, List.reverse_cons, List.append_assoc, List.singleton_append]
    at reversed
  obtain ⟨rests, heads⟩ := split_at_first_mark (by simpa using leftFree)
    (by simpa using rightFree) reversed
  exact ⟨List.reverse_injective heads, List.reverse_injective rests⟩

theorem text_before_first_mark {mark : Char} {left right leftRest rightRest : String}
    (leftFree : mark ∉ left.toList) (rightFree : mark ∉ right.toList)
    (same : left ++ (String.singleton mark ++ leftRest) =
      right ++ (String.singleton mark ++ rightRest)) :
    left = right ∧ leftRest = rightRest := by
  have chars := congrArg String.toList same
  simp only [String.toList_append, String.toList_singleton, List.singleton_append] at chars
  obtain ⟨heads, tails⟩ := split_at_first_mark leftFree rightFree chars
  exact ⟨String.toList_inj.mp heads, String.toList_inj.mp tails⟩

theorem text_after_last_mark {mark : Char} {left right leftRest rightRest : String}
    (leftFree : mark ∉ leftRest.toList) (rightFree : mark ∉ rightRest.toList)
    (same : left ++ (String.singleton mark ++ leftRest) =
      right ++ (String.singleton mark ++ rightRest)) :
    left = right ∧ leftRest = rightRest := by
  have chars := congrArg String.toList same
  simp only [String.toList_append, String.toList_singleton, List.singleton_append] at chars
  obtain ⟨heads, tails⟩ := split_at_last_mark leftFree rightFree chars
  exact ⟨String.toList_inj.mp heads, String.toList_inj.mp tails⟩

/-! ## Decimal numbers -/

theorem decimal_text (value : UInt64) : toString value = value.toNat.repr := rfl

theorem decimal_is_digits (value : UInt64) : ∀ char ∈ (toString value).toList, char.isDigit := by
  intro char member
  rw [decimal_text, Nat.toList_repr] at member
  exact Nat.isDigit_of_mem_toDigits (by decide) (by decide) member

theorem decimal_mark_free (mark : Char) (punctuation : mark.isDigit = false) (value : UInt64) :
    mark ∉ (toString value).toList := by
  intro member
  rw [decimal_is_digits value mark member] at punctuation
  exact Bool.noConfusion punctuation

theorem decimal_injective {left right : UInt64} (same : toString left = toString right) :
    left = right := by
  rw [decimal_text, decimal_text] at same
  exact UInt64.toNat_inj.mp (Nat.repr_injective same)

end CatalystSvm.Library.TextFraming
