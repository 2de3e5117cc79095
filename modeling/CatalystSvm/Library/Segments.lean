import Mathlib.Data.List.Basic

/-!
# Cutting a list into segments

A list of lists whose concatenation is the list that was cut.
-/

namespace CatalystSvm.Library.Segments

set_option autoImplicit false

variable {Item : Type*}

theorem segments_le_items {segments : List (List Item)}
    (filled : ∀ segment ∈ segments, segment ≠ []) : segments.length ≤ segments.flatten.length := by
  induction segments with
  | nil => exact Nat.le_refl 0
  | cons segment rest ih =>
      have head := List.length_pos_iff.mpr (filled segment List.mem_cons_self)
      have tail := ih fun other member => filled other (List.mem_cons_of_mem _ member)
      rw [List.flatten_cons, List.length_append, List.length_cons]
      omega

theorem earlier_segment_subset {segments : List (List Item)}
    (filled : ∀ segment ∈ segments, segment ≠ []) {index : Nat} {segment later : List Item}
    (found : segments[index]? = some segment) (next : segments[index + 1]? = some later)
    (rest : List Item) : segment ⊆ (segments.flatten ++ rest).dropLast := by
  induction segments generalizing index with
  | nil => cases found
  | cons head tail ih =>
      have member : later ∈ tail := List.mem_of_getElem? (i := index) (by simpa using next)
      have laterFilled : later ≠ [] := filled later (by simp [member])
      have remains : tail.flatten ++ rest ≠ [] := by
        intro empty
        have none := (List.append_eq_nil_iff.mp empty).1
        exact laterFilled (List.flatten_eq_nil_iff.mp none later member)
      rw [List.flatten_cons, List.append_assoc, List.dropLast_append_of_ne_nil remains]
      cases index with
      | zero =>
          cases found
          exact List.subset_append_left _ _
      | succ index =>
          have inTail := ih (fun other listed => filled other (by simp [listed])) found next
          exact List.Subset.trans inTail (List.subset_append_right _ _)

def startOf (segments : List (List Item)) (index : Nat) : Nat :=
  (segments.take index).flatten.length

theorem segment_at_start {segments : List (List Item)} {index : Nat} {segment : List Item}
    (found : segments[index]? = some segment) (rest : List Item) :
    ((segments.flatten ++ rest).drop (startOf segments index)).take segment.length = segment := by
  obtain ⟨bound, rfl⟩ := List.getElem?_eq_some_iff.mp found
  have split : segments.flatten =
      (segments.take index).flatten ++ (segments[index] ++ (segments.drop (index + 1)).flatten) := by
    rw [← List.flatten_cons, ← List.drop_eq_getElem_cons bound, ← List.flatten_append,
      List.take_append_drop]
  rw [split, List.append_assoc, startOf, List.drop_left, List.append_assoc, List.take_left]

theorem starts_apart {segments : List (List Item)} {index other : Nat} {segment : List Item}
    (found : segments[index]? = some segment) (before : index < other) :
    startOf segments index + segment.length ≤ startOf segments other := by
  have next : startOf segments (index + 1) = startOf segments index + segment.length := by
    rw [startOf, startOf, List.take_add_one, found, Option.toList_some, List.flatten_append,
      List.flatten_singleton, List.length_append]
  obtain ⟨between, more⟩ : segments.take (index + 1) <+: segments.take other :=
    List.take_prefix_take_left before
  rw [← next, startOf, startOf, ← more, List.flatten_append, List.length_append]
  exact Nat.le_add_right _ _

/-- When no item occurs twice, an item tells which owner holds it. -/
theorem owner_unique {Owner : Type*} (holds : Owner → List Item) {owners : List Owner}
    (distinct : (owners.map holds).flatten.Nodup) {left right : Owner} (leftIn : left ∈ owners)
    (rightIn : right ∈ owners) {item : Item} (leftHolds : item ∈ holds left)
    (rightHolds : item ∈ holds right) : left = right := by
  induction owners with
  | nil => cases leftIn
  | cons owner rest ih =>
      rw [List.map_cons, List.flatten_cons, List.nodup_append] at distinct
      rcases distinct with ⟨_, restDistinct, apart⟩
      have elsewhere : ∀ other ∈ rest, item ∈ holds other → item ∉ holds owner := by
        intro other member otherHolds ownerHolds
        have listed : item ∈ (rest.map holds).flatten :=
          List.mem_flatten.mpr ⟨holds other, List.mem_map_of_mem member, otherHolds⟩
        exact apart item ownerHolds item listed rfl
      rcases List.mem_cons.mp leftIn with rfl | leftRest
      · rcases List.mem_cons.mp rightIn with rfl | rightRest
        · rfl
        · exact absurd leftHolds (elsewhere right rightRest rightHolds)
      · rcases List.mem_cons.mp rightIn with rfl | rightRest
        · exact absurd rightHolds (elsewhere left leftRest leftHolds)
        · exact ih restDistinct leftRest rightRest

end CatalystSvm.Library.Segments
