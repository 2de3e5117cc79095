import Mathlib.Data.List.Basic
import Mathlib.Data.List.Count

/-!
# Neighbours in a list, and lists that commute

What is computed from adjacent pairs of a list splits at every cut, with one value
for the pair across it. Two lists that can be exchanged around a letter repeat one
block.
-/

namespace CatalystSvm.Library.Words

set_option autoImplicit false

/-! ## Neighbours -/

section Neighbours

variable {Item Gap : Type*}

def neighbours (gap : Item → Item → Gap) : List Item → List Gap
  | [] => []
  | [_] => []
  | first :: second :: rest => gap first second :: neighbours gap (second :: rest)

variable {gap : Item → Item → Gap}

theorem neighbours_length (items : List Item) :
    (neighbours gap items).length = items.length - 1 := by
  induction items using neighbours.induct with
  | case1 => rfl
  | case2 only => rfl
  | case3 first second rest ih =>
      rw [neighbours, List.length_cons, ih]
      rfl

theorem neighbours_append {left right : List Item} (leftItems : left ≠ [])
    (rightItems : right ≠ []) :
    neighbours gap (left ++ right) = neighbours gap left ++
      gap (left.getLast leftItems) (right.head rightItems) :: neighbours gap right := by
  induction left with
  | nil => exact absurd rfl leftItems
  | cons head tail ih =>
      cases tail with
      | nil =>
          obtain ⟨first, rest, rfl⟩ := List.exists_cons_of_ne_nil rightItems
          rfl
      | cons next tail =>
          have later := ih (List.cons_ne_nil next tail)
          rw [List.cons_append] at later
          rw [List.cons_append, List.cons_append, neighbours, later, neighbours,
            List.getLast_cons (List.cons_ne_nil next tail)]
          rfl

theorem neighbours_congr {other : Item → Item → Gap} {related : Item → Item → Prop}
    {items : List Item} (ordered : items.Pairwise related)
    (same : ∀ first second, related first second → gap first second = other first second) :
    neighbours gap items = neighbours other items := by
  induction items using neighbours.induct with
  | case1 => rfl
  | case2 only => rfl
  | case3 first second rest ih =>
      rw [List.pairwise_cons] at ordered
      rw [neighbours, neighbours, same first second (ordered.1 second (by simp)), ih ordered.2]

theorem neighbours_forall (Holds : Gap → Prop) {Inside : Item → Prop} {items : List Item}
    (inside : ∀ item ∈ items, Inside item)
    (each : ∀ first second, Inside first → Inside second → Holds (gap first second)) :
    ∀ value ∈ neighbours gap items, Holds value := by
  induction items using neighbours.induct with
  | case1 => simp [neighbours]
  | case2 only => simp [neighbours]
  | case3 first second rest ih =>
      intro value member
      rw [neighbours, List.mem_cons] at member
      cases member with
      | inl head =>
          rw [head]
          exact each first second (inside first (by simp)) (inside second (by simp))
      | inr later =>
          exact ih (fun item listed => inside item (List.mem_cons_of_mem first listed)) value later

end Neighbours

/-! ## Commuting words -/

section Commuting

variable {Letter : Type*}

def repeated (block : List Letter) (times : Nat) : List Letter :=
  (List.replicate times block).flatten

theorem repeated_add (block : List Letter) (times more : Nat) :
    repeated block (times + more) = repeated block times ++ repeated block more := by
  rw [repeated, List.replicate_add, List.flatten_append]
  rfl

theorem repeated_one (block : List Letter) : repeated block 1 = block := by
  simp [repeated]

def CommonBlock (left right : List Letter) : Prop :=
  ∃ block times more, left = repeated block times ∧ right = repeated block more

theorem common_block_symm {left right : List Letter} (common : CommonBlock left right) :
    CommonBlock right left := by
  obtain ⟨block, times, more, first, second⟩ := common
  exact ⟨block, more, times, second, first⟩

/-- The shorter of two commuting words is a prefix of the longer, and commutes with the rest. -/
theorem shorter_is_prefix {left right : List Letter} (commute : left ++ right = right ++ left)
    (shorter : left.length ≤ right.length) :
    ∃ rest, right = left ++ rest ∧ left ++ rest = rest ++ left := by
  have begins : left <+: right :=
    List.prefix_of_prefix_length_le (commute ▸ List.prefix_append left right)
      (List.prefix_append right left) shorter
  obtain ⟨rest, same⟩ := begins
  subst same
  rw [List.append_assoc] at commute
  exact ⟨rest, rfl, List.append_cancel_left commute⟩

theorem common_block_of_commute (left right : List Letter)
    (commute : left ++ right = right ++ left) : CommonBlock left right := by
  induction size : left.length + right.length using Nat.strongRecOn
    generalizing left right with
  | ind bound ih =>
      -- The shorter word is cut off the longer one, as in Euclid's algorithm.
      have cut : ∀ short long : List Letter, short.length + long.length = bound →
          short.length ≤ long.length → short ++ long = long ++ short →
          CommonBlock short long := by
        intro short long total shorter exchange
        obtain ⟨rest, joined, commutes⟩ := shorter_is_prefix exchange shorter
        by_cases empty : short = []
        · subst empty
          exact ⟨long, 0, 1, rfl, (repeated_one long).symm⟩
        · have positive := List.length_pos_iff.mpr empty
          have smaller : short.length + rest.length < bound := by
            rw [← total, joined, List.length_append]
            omega
          obtain ⟨block, times, more, first, second⟩ := ih _ smaller short rest commutes rfl
          refine ⟨block, times, times + more, first, ?_⟩
          rw [joined, repeated_add, ← first, ← second]
      rcases Nat.le_total left.length right.length with shorter | longer
      · exact cut left right size shorter commute
      · exact common_block_symm (cut right left (by omega) longer commute.symm)

theorem commute_iff_common_block (left right : List Letter) :
    left ++ right = right ++ left ↔ CommonBlock left right := by
  constructor
  · exact common_block_of_commute left right
  · intro common
    obtain ⟨block, times, more, rfl, rfl⟩ := common
    rw [← repeated_add, Nat.add_comm, repeated_add]

/-- Two words can be exchanged around a letter exactly when both, closed by that letter,
repeat one block. -/
theorem exchanged_around_letter_iff (left right : List Letter) (first second : Letter) :
    left ++ first :: right = right ++ second :: left ↔
      first = second ∧ CommonBlock (left ++ [first]) (right ++ [first]) := by
  classical
  rw [← commute_iff_common_block]
  constructor
  · intro exchanged
    have letters : first = second := by
      by_contra different
      have counts := congrArg (List.count first) exchanged
      rw [List.count_append, List.count_cons_self, List.count_append,
        List.count_cons_of_ne (Ne.symm different)] at counts
      omega
    subst letters
    refine ⟨rfl, ?_⟩
    have closed := congrArg (fun word => word ++ [first]) exchanged
    simpa using closed
  · intro common
    obtain ⟨letters, commute⟩ := common
    subst letters
    have closed : (left ++ first :: right) ++ [first] = (right ++ first :: left) ++ [first] := by
      simpa using commute
    exact List.append_cancel_right closed

end Commuting

end CatalystSvm.Library.Words
