import Mathlib.Algebra.GroupWithZero.Nat
import Mathlib.Data.Nat.Log
import Mathlib.Data.List.Nodup
import Mathlib.Data.List.Basic

/-!
# Level-by-level Merkle trees without domain separation

A level is reduced by hashing adjacent pairs; an odd last node is paired with
itself. The loop repeats this until one node is left. Nothing is assumed about
the hash: every binding statement is relative to an explicit list of preimages
on which it has no collision, and that list is the one the loop really hashes.
-/

namespace CatalystSvm.Library.MerkleLevels

set_option autoImplicit false

variable {Digest Preimage : Type*}

/-- Two different listed preimages share a digest. -/
def Collision (hash : Preimage → Digest) (inputs : List Preimage) : Prop :=
  ∃ left ∈ inputs, ∃ right ∈ inputs, left ≠ right ∧ hash left = hash right

instance [DecidableEq Preimage] [DecidableEq Digest] (hash : Preimage → Digest)
    (inputs : List Preimage) : Decidable (Collision hash inputs) :=
  inferInstanceAs (Decidable (∃ left ∈ inputs, ∃ right ∈ inputs,
    left ≠ right ∧ hash left = hash right))

def CollisionFree (hash : Preimage → Digest) (inputs : List Preimage) : Prop :=
  ∀ left ∈ inputs, ∀ right ∈ inputs, hash left = hash right → left = right

theorem collision_free_of_not_collision {hash : Preimage → Digest} {inputs : List Preimage}
    (safe : ¬Collision hash inputs) : CollisionFree hash inputs := by
  intro left leftMember right rightMember same
  by_contra different
  exact safe ⟨left, leftMember, right, rightMember, different, same⟩

theorem collision_free_mono {hash : Preimage → Digest} {inputs larger : List Preimage}
    (safe : CollisionFree hash larger) (subset : inputs ⊆ larger) : CollisionFree hash inputs := by
  intro left leftMember right rightMember same
  exact safe left (subset leftMember) right (subset rightMember) same

theorem preimages_of_digests {hash : Preimage → Digest} {inputs : List Preimage}
    (left right : List Preimage) (safe : CollisionFree hash inputs)
    (leftSubset : left ⊆ inputs) (rightSubset : right ⊆ inputs)
    (same : left.map hash = right.map hash) : left = right := by
  induction left generalizing right with
  | nil =>
      have empty := congrArg List.length same
      simp only [List.map_nil, List.length_nil, List.length_map] at empty
      exact (List.length_eq_zero_iff.mp empty.symm).symm
  | cons head tail ih =>
      cases right with
      | nil => simp at same
      | cons other rest =>
          simp only [List.map_cons, List.cons.injEq] at same
          have heads := safe head (leftSubset (by simp)) other (rightSubset (by simp)) same.1
          have tails := ih rest (List.subset_of_cons_subset leftSubset)
            (List.subset_of_cons_subset rightSubset) same.2
          rw [heads, tails]

def levelInputs (pair : Digest → Digest → Preimage) : List Digest → List Preimage
  | [] => []
  | [last] => [pair last last]
  | left :: right :: rest => pair left right :: levelInputs pair rest

def nextLevel (hash : Preimage → Digest) (pair : Digest → Digest → Preimage)
    (level : List Digest) : List Digest :=
  (levelInputs pair level).map hash

/-- `while level.len() > 1`. One unit of fuel is one pass. -/
def levelLoop (hash : Preimage → Digest) (pair : Digest → Digest → Preimage) :
    Nat → List Digest → List Digest
  | 0, level => level
  | fuel + 1, level =>
      if 1 < level.length then levelLoop hash pair fuel (nextLevel hash pair level) else level

def loopInputs (hash : Preimage → Digest) (pair : Digest → Digest → Preimage) :
    Nat → List Digest → List Preimage
  | 0, _ => []
  | fuel + 1, level =>
      if 1 < level.length then
        levelInputs pair level ++ loopInputs hash pair fuel (nextLevel hash pair level)
      else []

def passInputs (hash : Preimage → Digest) (pair : Digest → Digest → Preimage) :
    Nat → List Digest → List Preimage
  | 0, _ => []
  | count + 1, level =>
      levelInputs pair level ++ passInputs hash pair count (nextLevel hash pair level)

def height (level : List Digest) : Nat := Nat.clog 2 level.length

section Shape

variable (hash : Preimage → Digest) (pair : Digest → Digest → Preimage)

theorem level_inputs_length (level : List Digest) :
    (levelInputs pair level).length = (level.length + 1) / 2 := by
  induction level using levelInputs.induct with
  | case1 => simp [levelInputs]
  | case2 last => simp [levelInputs]
  | case3 left right rest ih =>
      simp only [levelInputs, List.length_cons, ih]
      omega

theorem next_level_length (level : List Digest) :
    (nextLevel hash pair level).length = (level.length + 1) / 2 := by
  rw [nextLevel, List.length_map, level_inputs_length]

theorem height_step (level : List Digest) (several : 1 < level.length) :
    height level = height (nextLevel hash pair level) + 1 := by
  rw [height, height, next_level_length, Nat.clog_of_two_le (by decide) several]
  rfl

theorem height_of_small (level : List Digest) (small : level.length ≤ 1) : height level = 0 :=
  Nat.clog_of_right_le_one small 2

/-- Enough fuel runs exactly `height` passes. -/
theorem level_loop_eq_iterate (fuel : Nat) (level : List Digest) (enough : level.length ≤ fuel) :
    levelLoop hash pair fuel level = (nextLevel hash pair)^[height level] level := by
  induction fuel generalizing level with
  | zero => rw [height_of_small level (by omega)]; rfl
  | succ fuel ih =>
      rw [levelLoop]
      split_ifs with several
      · rw [ih _ (by rw [next_level_length]; omega), height_step hash pair level several,
          Function.iterate_succ_apply]
      · rw [height_of_small level (by omega)]
        rfl

theorem loop_inputs_eq_pass_inputs (fuel : Nat) (level : List Digest)
    (enough : level.length ≤ fuel) :
    loopInputs hash pair fuel level = passInputs hash pair (height level) level := by
  induction fuel generalizing level with
  | zero => rw [height_of_small level (by omega)]; rfl
  | succ fuel ih =>
      rw [loopInputs]
      split_ifs with several
      · rw [ih _ (by rw [next_level_length]; omega), height_step hash pair level several,
          passInputs]
      · rw [height_of_small level (by omega)]
        rfl

theorem level_loop_length (fuel : Nat) (level : List Digest) (nonempty : level ≠ [])
    (enough : level.length ≤ fuel) : (levelLoop hash pair fuel level).length = 1 := by
  have positive : 0 < level.length := List.length_pos_iff.mpr nonempty
  induction fuel generalizing level with
  | zero => omega
  | succ fuel ih =>
      rw [levelLoop]
      split_ifs with several
      · have nextPositive : 0 < (nextLevel hash pair level).length := by
          rw [next_level_length]
          omega
        exact ih _ (List.length_pos_iff.mp nextPositive) (by rw [next_level_length]; omega)
          nextPositive
      · omega

end Shape

/-! ## The tree from the top

A list that is longer than `2 ^ k` and not longer than `2 ^ (k + 1)` has a full left
subtree; the right one is lifted to its height, as odd levels do.
-/

section TopDown

variable (hash : Preimage → Digest) (pair : Digest → Digest → Preimage)

def lifted (count : Nat) (node : Digest) : Digest :=
  (fun node => hash (pair node node))^[count] node

theorem level_inputs_append (left right : List Digest) (even : 2 ∣ left.length) :
    levelInputs pair (left ++ right) = levelInputs pair left ++ levelInputs pair right := by
  induction left using levelInputs.induct with
  | case1 => rfl
  | case2 last => simp at even
  | case3 first second rest ih =>
      have restEven : 2 ∣ rest.length := by
        simp only [List.length_cons] at even
        omega
      rw [List.cons_append, List.cons_append, levelInputs, levelInputs, ih restEven,
        List.cons_append]

theorem next_level_append (left right : List Digest) (even : 2 ∣ left.length) :
    nextLevel hash pair (left ++ right) = nextLevel hash pair left ++ nextLevel hash pair right := by
  rw [nextLevel, level_inputs_append pair left right even, List.map_append]
  rfl

/-- Full subtrees on the left never share a node with what is on their right. -/
theorem passes_append (count : Nat) (left right : List Digest) (full : 2 ^ count ∣ left.length) :
    (nextLevel hash pair)^[count] (left ++ right) =
      (nextLevel hash pair)^[count] left ++ (nextLevel hash pair)^[count] right := by
  induction count generalizing left right with
  | zero => rfl
  | succ count ih =>
      obtain ⟨blocks, size⟩ := full
      have twice : left.length = 2 * (2 ^ count * blocks) := by
        rw [size, Nat.pow_succ', Nat.mul_assoc]
      have even : 2 ∣ left.length := ⟨2 ^ count * blocks, twice⟩
      have halved : 2 ^ count ∣ (nextLevel hash pair left).length := by
        use blocks
        rw [next_level_length, twice]
        omega
      rw [Function.iterate_succ_apply, Function.iterate_succ_apply, Function.iterate_succ_apply,
        next_level_append hash pair left right even, ih _ _ halved]

theorem passes_single (count : Nat) (node : Digest) :
    (nextLevel hash pair)^[count] [node] = [lifted hash pair count node] := by
  induction count generalizing node with
  | zero => rfl
  | succ count ih =>
      rw [Function.iterate_succ_apply, lifted, Function.iterate_succ_apply]
      exact ih (hash (pair node node))

theorem passes_past_height {level : List Digest} {root : Digest} {count : Nat}
    (top : (nextLevel hash pair)^[height level] level = [root]) (tall : height level ≤ count) :
    (nextLevel hash pair)^[count] level = [lifted hash pair (count - height level) root] := by
  obtain ⟨more, sum⟩ := Nat.exists_eq_add_of_le' tall
  rw [sum, Function.iterate_add_apply, top, passes_single, Nat.add_sub_cancel]

def leftSize (leaves : List Digest) : Nat := 2 ^ (height leaves - 1)

theorem height_positive {leaves : List Digest} (several : 1 < leaves.length) :
    0 < height leaves :=
  Nat.clog_pos (by decide) several

theorem left_size_bounds {leaves : List Digest} (several : 1 < leaves.length) :
    leftSize leaves < leaves.length ∧ leaves.length ≤ 2 * leftSize leaves := by
  constructor
  · exact Nat.pow_pred_clog_lt_self (by decide) several
  · have covers : leaves.length ≤ 2 ^ height leaves := Nat.le_pow_clog (by decide) _
    have positive := height_positive several
    rw [leftSize, ← Nat.pow_succ', Nat.succ_eq_add_one, Nat.sub_add_cancel positive]
    exact covers

/-- The root by recursion from the top. -/
def topDownRoot (leaves : List Digest) (nonempty : leaves ≠ []) : Digest :=
  if several : 1 < leaves.length then
    hash (pair
      (topDownRoot (leaves.take (leftSize leaves)) (by
        have positive : 0 < leftSize leaves := Nat.two_pow_pos _
        rw [Ne, List.take_eq_nil_iff, not_or]
        exact ⟨positive.ne', nonempty⟩))
      (lifted hash pair (height leaves - 1 - height (leaves.drop (leftSize leaves)))
        (topDownRoot (leaves.drop (leftSize leaves)) (by
          have bounds := left_size_bounds several
          rw [Ne, List.drop_eq_nil_iff]
          omega))))
  else leaves.head nonempty
termination_by leaves.length
decreasing_by
  · have bounds := left_size_bounds several
    rw [List.length_take]
    omega
  · have positive : 0 < leftSize leaves := Nat.two_pow_pos _
    rw [List.length_drop]
    omega

theorem height_of_bounds {leaves : List Digest} {count : Nat} (above : 2 ^ count < leaves.length)
    (within : leaves.length ≤ 2 ^ (count + 1)) : height leaves = count + 1 := by
  apply Nat.le_antisymm
  · exact Nat.clog_le_of_le_pow within
  · exact (Nat.lt_clog_iff_pow_lt (by decide)).mpr above

theorem top_down_root_split {leaves : List Digest} (nonempty : leaves ≠ []) {count : Nat}
    (above : 2 ^ count < leaves.length) (within : leaves.length ≤ 2 ^ (count + 1)) :
    ∃ leftNonempty rightNonempty, topDownRoot hash pair leaves nonempty =
      hash (pair (topDownRoot hash pair (leaves.take (2 ^ count)) leftNonempty)
        (lifted hash pair (count - height (leaves.drop (2 ^ count)))
          (topDownRoot hash pair (leaves.drop (2 ^ count)) rightNonempty))) := by
  have positive : 0 < 2 ^ count := Nat.two_pow_pos count
  have tall := height_of_bounds above within
  have size : leftSize leaves = 2 ^ count := by rw [leftSize, tall, Nat.add_sub_cancel]
  have several : 1 < leaves.length := by omega
  have leftNonempty : leaves.take (2 ^ count) ≠ [] := by
    rw [Ne, List.take_eq_nil_iff, not_or]
    exact ⟨positive.ne', nonempty⟩
  have rightNonempty : leaves.drop (2 ^ count) ≠ [] := by
    rw [Ne, List.drop_eq_nil_iff]
    omega
  use leftNonempty, rightNonempty
  rw [topDownRoot, dif_pos several]
  simp only [size, tall, Nat.add_sub_cancel]

/-- The passes of the loop and the recursion from the top build one root. -/
theorem passes_top_down (leaves : List Digest) (nonempty : leaves ≠ []) :
    (nextLevel hash pair)^[height leaves] leaves = [topDownRoot hash pair leaves nonempty] := by
  induction leaves, nonempty using topDownRoot.induct with
  | case1 leaves nonempty several leftIh rightIh =>
      have bounds := left_size_bounds several
      have positive := height_positive several
      have leftLength : (leaves.take (leftSize leaves)).length = leftSize leaves :=
        List.length_take_of_le bounds.1.le
      have leftHeight : height (leaves.take (leftSize leaves)) = height leaves - 1 := by
        rw [height, leftLength, leftSize, Nat.clog_pow 2 _ (by decide)]
      have rightHeight : height (leaves.drop (leftSize leaves)) ≤ height leaves - 1 := by
        apply Nat.clog_le_of_le_pow
        rw [List.length_drop, ← leftSize]
        omega
      have leftTop := passes_past_height hash pair leftIh leftHeight.le
      rw [leftHeight, Nat.sub_self] at leftTop
      have rightTop := passes_past_height hash pair rightIh rightHeight
      have full : 2 ^ (height leaves - 1) ∣ (leaves.take (leftSize leaves)).length := by
        rw [leftLength]
        exact Nat.dvd_refl _
      have halves : (nextLevel hash pair)^[height leaves - 1] leaves =
          (nextLevel hash pair)^[height leaves - 1] (leaves.take (leftSize leaves)) ++
            (nextLevel hash pair)^[height leaves - 1] (leaves.drop (leftSize leaves)) := by
        rw [← passes_append hash pair _ _ _ full, List.take_append_drop]
      rw [leftTop, rightTop] at halves
      have last : height leaves = height leaves - 1 + 1 := by omega
      rw [topDownRoot, dif_pos several, last, Function.iterate_succ_apply', halves, ← last]
      rfl
  | case2 leaves nonempty single =>
      have positive := List.length_pos_iff.mpr nonempty
      obtain ⟨leaf, rfl⟩ := List.length_eq_one_iff.mp (by omega : leaves.length = 1)
      rw [height_of_small _ (by simp), topDownRoot, dif_neg single]
      rfl

end TopDown

/-! ## Binding -/

section Binding

variable {hash : Preimage → Digest} {pair : Digest → Digest → Preimage}
variable {WellFormed : Digest → Prop}

/-- A pair preimage can be split back into its two well-formed digests. -/
def PairSplits (pair : Digest → Digest → Preimage) (WellFormed : Digest → Prop) : Prop :=
  ∀ left right otherLeft otherRight, WellFormed left → WellFormed right →
    WellFormed otherLeft → WellFormed otherRight →
    pair left right = pair otherLeft otherRight → left = otherLeft ∧ right = otherRight

theorem next_level_well_formed (hashed : ∀ input, WellFormed (hash input)) (level : List Digest) :
    ∀ node ∈ nextLevel hash pair level, WellFormed node := by
  intro node member
  obtain ⟨input, _, rfl⟩ := List.mem_map.mp member
  exact hashed input

theorem level_inputs_are_pairs (level : List Digest) (formed : ∀ node ∈ level, WellFormed node) :
    ∀ input ∈ levelInputs pair level, ∃ left ∈ level, ∃ right, WellFormed left ∧
      WellFormed right ∧ input = pair left right := by
  induction level using levelInputs.induct with
  | case1 => simp [levelInputs]
  | case2 last =>
      intro input member
      have lastFormed := formed last (by simp)
      simp only [levelInputs, List.mem_singleton] at member
      exact ⟨last, by simp, last, lastFormed, lastFormed, member⟩
  | case3 left right rest ih =>
      intro input member
      simp only [levelInputs, List.mem_cons] at member
      rcases member with rfl | later
      · exact ⟨left, by simp, right, formed left (by simp), formed right (by simp), rfl⟩
      · obtain ⟨first, inside, second, parts⟩ := ih
          (fun node inner => formed node (by simp [inner])) input later
        exact ⟨first, by simp [inside], second, parts⟩

theorem level_inputs_inj_of_length (splits : PairSplits pair WellFormed)
    (left right : List Digest) (lengths : left.length = right.length)
    (leftFormed : ∀ node ∈ left, WellFormed node) (rightFormed : ∀ node ∈ right, WellFormed node)
    (same : levelInputs pair left = levelInputs pair right) : left = right := by
  induction left using levelInputs.induct generalizing right with
  | case1 => exact (List.length_eq_zero_iff.mp lengths.symm).symm
  | case2 last =>
      obtain ⟨other, rfl⟩ := List.length_eq_one_iff.mp lengths.symm
      simp only [levelInputs, List.cons.injEq, and_true] at same
      have lastFormed := leftFormed last (by simp)
      have otherFormed := rightFormed other (by simp)
      rw [(splits _ _ _ _ lastFormed lastFormed otherFormed otherFormed same).1]
  | case3 first second rest ih =>
      match right with
      | [] => simp at lengths
      | [_] => simp at lengths
      | otherFirst :: otherSecond :: others =>
          simp only [levelInputs, List.cons.injEq] at same
          have heads := splits _ _ _ _ (leftFormed first (by simp)) (leftFormed second (by simp))
            (rightFormed otherFirst (by simp)) (rightFormed otherSecond (by simp)) same.1
          have tails := ih others (by simpa using lengths)
            (fun node member => leftFormed node (by simp [member]))
            (fun node member => rightFormed node (by simp [member])) same.2
          rw [heads.1, heads.2, tails]

/-- Without repeated nodes the length need not be known: a padded odd end shows
up as a repeated node. -/
theorem level_inputs_inj_of_nodup (splits : PairSplits pair WellFormed)
    (left right : List Digest) (leftDistinct : left.Nodup) (rightDistinct : right.Nodup)
    (leftFormed : ∀ node ∈ left, WellFormed node) (rightFormed : ∀ node ∈ right, WellFormed node)
    (same : levelInputs pair left = levelInputs pair right) : left = right := by
  induction left using levelInputs.induct generalizing right with
  | case1 =>
      match right with
      | [] => rfl
      | [_] => simp [levelInputs] at same
      | _ :: _ :: _ => simp [levelInputs] at same
  | case2 last =>
      have lastFormed := leftFormed last (by simp)
      match right with
      | [] => simp [levelInputs] at same
      | [other] =>
          simp only [levelInputs, List.cons.injEq, and_true] at same
          have otherFormed := rightFormed other (by simp)
          rw [(splits _ _ _ _ lastFormed lastFormed otherFormed otherFormed same).1]
      | first :: second :: _ =>
          simp only [levelInputs, List.cons.injEq] at same
          have parts := splits _ _ _ _ lastFormed lastFormed (rightFormed first (by simp))
            (rightFormed second (by simp)) same.1
          have repeated : first = second := parts.1.symm.trans parts.2
          simp [repeated] at rightDistinct
  | case3 first second rest ih =>
      have firstFormed := leftFormed first (by simp)
      have secondFormed := leftFormed second (by simp)
      match right with
      | [] => simp [levelInputs] at same
      | [other] =>
          simp only [levelInputs, List.cons.injEq] at same
          have otherFormed := rightFormed other (by simp)
          have parts := splits _ _ _ _ firstFormed secondFormed otherFormed otherFormed same.1
          have repeated : first = second := parts.1.trans parts.2.symm
          simp [repeated] at leftDistinct
      | otherFirst :: otherSecond :: others =>
          simp only [levelInputs, List.cons.injEq] at same
          have heads := splits _ _ _ _ firstFormed secondFormed
            (rightFormed otherFirst (by simp)) (rightFormed otherSecond (by simp)) same.1
          have tails := ih others leftDistinct.of_cons.of_cons rightDistinct.of_cons.of_cons
            (fun node member => leftFormed node (by simp [member]))
            (fun node member => rightFormed node (by simp [member])) same.2
          rw [heads.1, heads.2, tails]

theorem level_inputs_nodup (splits : PairSplits pair WellFormed) (level : List Digest)
    (distinct : level.Nodup) (formed : ∀ node ∈ level, WellFormed node) :
    (levelInputs pair level).Nodup := by
  induction level using levelInputs.induct with
  | case1 => simp [levelInputs]
  | case2 last => simp [levelInputs]
  | case3 left right rest ih =>
      have restFormed : ∀ node ∈ rest, WellFormed node := fun node member =>
        formed node (by simp [member])
      rw [levelInputs, List.nodup_cons]
      refine ⟨?_, ih distinct.of_cons.of_cons restFormed⟩
      intro member
      -- A repeated pair would repeat its left node further along the level.
      obtain ⟨first, inside, second, firstFormed, secondFormed, equal⟩ :=
        level_inputs_are_pairs rest restFormed _ member
      have parts := splits _ _ _ _ (formed left (by simp)) (formed right (by simp))
        firstFormed secondFormed equal
      rw [List.nodup_cons] at distinct
      exact distinct.1 (by simp [parts.1, inside])

theorem next_level_nodup (splits : PairSplits pair WellFormed) (level : List Digest)
    (distinct : level.Nodup) (formed : ∀ node ∈ level, WellFormed node)
    (safe : CollisionFree hash (levelInputs pair level)) : (nextLevel hash pair level).Nodup := by
  apply List.Nodup.map_on _ (level_inputs_nodup splits level distinct formed)
  intro left leftMember right rightMember same
  exact safe left leftMember right rightMember same

theorem passes_inj_of_length (splits : PairSplits pair WellFormed)
    (hashed : ∀ input, WellFormed (hash input)) (count : Nat) (left right : List Digest)
    (lengths : left.length = right.length)
    (leftFormed : ∀ node ∈ left, WellFormed node) (rightFormed : ∀ node ∈ right, WellFormed node)
    (safe : CollisionFree hash
      (passInputs hash pair count left ++ passInputs hash pair count right))
    (same : (nextLevel hash pair)^[count] left = (nextLevel hash pair)^[count] right) :
    left = right := by
  induction count generalizing left right with
  | zero => exact same
  | succ count ih =>
      simp only [passInputs] at safe
      have next := ih (nextLevel hash pair left) (nextLevel hash pair right)
        (by rw [next_level_length, next_level_length, lengths])
        (next_level_well_formed hashed left) (next_level_well_formed hashed right)
        (collision_free_mono safe (by intro input member; simp at member ⊢; tauto)) same
      have inputs := preimages_of_digests (levelInputs pair left) (levelInputs pair right) safe
        (by intro input member; simp [member]) (by intro input member; simp [member]) next
      exact level_inputs_inj_of_length splits left right lengths leftFormed rightFormed inputs

theorem passes_inj_of_nodup (splits : PairSplits pair WellFormed)
    (hashed : ∀ input, WellFormed (hash input)) (count : Nat) (left right : List Digest)
    (leftDistinct : left.Nodup) (rightDistinct : right.Nodup)
    (leftFormed : ∀ node ∈ left, WellFormed node) (rightFormed : ∀ node ∈ right, WellFormed node)
    (safe : CollisionFree hash
      (passInputs hash pair count left ++ passInputs hash pair count right))
    (same : (nextLevel hash pair)^[count] left = (nextLevel hash pair)^[count] right) :
    left = right := by
  induction count generalizing left right with
  | zero => exact same
  | succ count ih =>
      simp only [passInputs] at safe
      have leftSafe : CollisionFree hash (levelInputs pair left) :=
        collision_free_mono safe (by intro input member; simp [member])
      have rightSafe : CollisionFree hash (levelInputs pair right) :=
        collision_free_mono safe (by intro input member; simp [member])
      have next := ih (nextLevel hash pair left) (nextLevel hash pair right)
        (next_level_nodup splits left leftDistinct leftFormed leftSafe)
        (next_level_nodup splits right rightDistinct rightFormed rightSafe)
        (next_level_well_formed hashed left) (next_level_well_formed hashed right)
        (collision_free_mono safe (by intro input member; simp at member ⊢; tauto)) same
      have inputs := preimages_of_digests (levelInputs pair left) (levelInputs pair right) safe
        (by intro input member; simp [member]) (by intro input member; simp [member]) next
      exact level_inputs_inj_of_nodup splits left right leftDistinct rightDistinct
        leftFormed rightFormed inputs

theorem pass_inputs_add (early late : Nat) (level : List Digest) :
    passInputs hash pair (early + late) level =
      passInputs hash pair early level ++
        passInputs hash pair late ((nextLevel hash pair)^[early] level) := by
  induction early generalizing level with
  | zero => simp [passInputs]
  | succ early ih =>
      rw [Nat.succ_add, passInputs, passInputs, ih, List.append_assoc,
        Function.iterate_succ_apply]

theorem passes_nodup (splits : PairSplits pair WellFormed)
    (hashed : ∀ input, WellFormed (hash input)) (count : Nat) (level : List Digest)
    (distinct : level.Nodup) (formed : ∀ node ∈ level, WellFormed node)
    (safe : CollisionFree hash (passInputs hash pair count level)) :
    ((nextLevel hash pair)^[count] level).Nodup := by
  induction count generalizing level with
  | zero => exact distinct
  | succ count ih =>
      rw [passInputs] at safe
      rw [Function.iterate_succ_apply]
      apply ih _ _ (next_level_well_formed hashed level)
      · exact collision_free_mono safe (by intro input member; simp [member])
      · exact next_level_nodup splits level distinct formed
          (collision_free_mono safe (by intro input member; simp [member]))

theorem passed_node_is_hashed_pair (hashed : ∀ input, WellFormed (hash input)) (count : Nat)
    (level : List Digest) (formed : ∀ node ∈ level, WellFormed node) :
    ∀ node ∈ (nextLevel hash pair)^[count + 1] level,
      ∃ input ∈ passInputs hash pair (count + 1) level, node = hash input ∧
        ∃ left right, WellFormed left ∧ WellFormed right ∧ input = pair left right := by
  induction count generalizing level with
  | zero =>
      intro node member
      obtain ⟨input, inside, rfl⟩ := List.mem_map.mp member
      obtain ⟨left, _, right, leftFormed, rightFormed, shape⟩ :=
        level_inputs_are_pairs level formed input inside
      exact ⟨input, by simp [passInputs, inside], rfl, left, right, leftFormed, rightFormed, shape⟩
  | succ count ih =>
      intro node member
      rw [Function.iterate_succ_apply] at member
      obtain ⟨input, inside, rest⟩ :=
        ih (nextLevel hash pair level) (next_level_well_formed hashed level) node member
      refine ⟨input, ?_, rest⟩
      rw [passInputs]
      exact List.mem_append_right _ inside

def treeInputs (hash : Preimage → Digest) (pair : Digest → Digest → Preimage)
    (leaves : List Preimage) : List Preimage :=
  leaves ++ passInputs hash pair (height (leaves.map hash)) (leaves.map hash)

theorem hashed_leaves_nodup {leaves : List Preimage} (distinct : leaves.Nodup)
    (safe : CollisionFree hash leaves) : (leaves.map hash).Nodup := by
  apply List.Nodup.map_on _ distinct
  intro left leftMember right rightMember same
  exact safe left leftMember right rightMember same

theorem hashed_leaves_well_formed (hashed : ∀ input, WellFormed (hash input))
    (leaves : List Preimage) : ∀ node ∈ leaves.map hash, WellFormed node := by
  intro node member
  obtain ⟨input, _, rfl⟩ := List.mem_map.mp member
  exact hashed input

/-- Trees over pairwise distinct leaf preimages, none of which can be read as a
pair, are bound by their root without knowing the number of leaves: a taller
tree would need a leaf preimage that hashes like a pair. -/
theorem distinct_leaves_bound_of_le (splits : PairSplits pair WellFormed)
    (hashed : ∀ input, WellFormed (hash input)) (leaves others : List Preimage)
    (nonempty : leaves ≠ []) (distinct : leaves.Nodup) (othersDistinct : others.Nodup)
    (leafShaped : ∀ input ∈ leaves, ∀ left right, WellFormed left → WellFormed right →
      input ≠ pair left right)
    (safe : CollisionFree hash (treeInputs hash pair leaves ++ treeInputs hash pair others))
    (lower : height (leaves.map hash) ≤ height (others.map hash))
    (same : (nextLevel hash pair)^[height (leaves.map hash)] (leaves.map hash) =
      (nextLevel hash pair)^[height (others.map hash)] (others.map hash)) :
    leaves = others := by
  simp only [treeInputs] at safe
  have leavesFormed := hashed_leaves_well_formed hashed leaves
  have othersFormed := hashed_leaves_well_formed hashed others
  have leavesNodup := hashed_leaves_nodup distinct
    (collision_free_mono safe (by intro input member; simp [member]))
  have othersNodup := hashed_leaves_nodup othersDistinct
    (collision_free_mono safe (by intro input member; simp [member]))
  obtain ⟨gap, gapEq⟩ := Nat.exists_eq_add_of_le lower
  rw [Nat.add_comm] at gapEq
  rw [gapEq, pass_inputs_add] at safe
  rw [gapEq, Nat.add_comm gap, Function.iterate_add_apply] at same
  have lifted : leaves.map hash = (nextLevel hash pair)^[gap] (others.map hash) := by
    apply passes_inj_of_nodup splits hashed (height (leaves.map hash)) _ _ leavesNodup _
      leavesFormed _ _ same
    · exact passes_nodup splits hashed gap _ othersNodup othersFormed
        (collision_free_mono safe (by intro input member; simp [member]))
    · cases gap with
      | zero => exact othersFormed
      | succ gap =>
          rw [Function.iterate_succ_apply']
          exact next_level_well_formed hashed _
    · exact collision_free_mono safe (by intro input member; simp at member ⊢; tauto)
  cases gap with
  | zero =>
      exact preimages_of_digests _ _ safe (by intro input member; simp [member])
        (by intro input member; simp [member]) lifted
  | succ gap =>
      -- The first leaf digest is also the digest of a pair of the taller tree.
      obtain ⟨first, rest, rfl⟩ := List.exists_cons_of_ne_nil nonempty
      have firstMember : hash first ∈ (nextLevel hash pair)^[gap + 1] (others.map hash) := by
        rw [← lifted]
        simp
      obtain ⟨input, inside, digest, left, right, leftFormed, rightFormed, shape⟩ :=
        passed_node_is_hashed_pair hashed gap _ othersFormed _ firstMember
      have equal : first = input := safe first (by simp) input (by simp [inside]) digest
      have noPair := leafShaped first (by simp) left right leftFormed rightFormed
      exact absurd (equal.trans shape) noPair

theorem distinct_leaves_bound (splits : PairSplits pair WellFormed)
    (hashed : ∀ input, WellFormed (hash input)) (leaves others : List Preimage)
    (nonempty : leaves ≠ []) (othersNonempty : others ≠ [])
    (distinct : leaves.Nodup) (othersDistinct : others.Nodup)
    (leafShaped : ∀ input ∈ leaves ++ others, ∀ left right, WellFormed left →
      WellFormed right → input ≠ pair left right)
    (safe : CollisionFree hash (treeInputs hash pair leaves ++ treeInputs hash pair others))
    (same : (nextLevel hash pair)^[height (leaves.map hash)] (leaves.map hash) =
      (nextLevel hash pair)^[height (others.map hash)] (others.map hash)) :
    leaves = others := by
  rcases Nat.le_total (height (leaves.map hash)) (height (others.map hash)) with lower | higher
  · exact distinct_leaves_bound_of_le splits hashed leaves others nonempty distinct othersDistinct
      (fun input member => leafShaped input (by simp [member])) safe lower same
  · exact (distinct_leaves_bound_of_le splits hashed others leaves othersNonempty othersDistinct
      distinct (fun input member => leafShaped input (by simp [member]))
      (collision_free_mono safe (by intro input member; simp at member ⊢; tauto)) higher
      same.symm).symm

end Binding

/-! ## Additive measures

Under a hash that keeps an additive measure of its input, pointwise smaller
levels stay pointwise smaller and a gap between their sums never closes.
-/

section Measure

variable {hash : Preimage → Digest} {pair : Digest → Digest → Preimage}
variable {size : Digest → Nat} {inputSize : Preimage → Nat}

def Below {Node : Type*} (size : Node → Nat) (left right : List Node) : Prop :=
  List.Forall₂ (fun first second => size first ≤ size second) left right

theorem level_inputs_below
    (additive : ∀ left right, inputSize (pair left right) = size left + size right)
    (left right : List Digest) (below : Below size left right) :
    Below inputSize (levelInputs pair left) (levelInputs pair right) ∧
      ((levelInputs pair left).map inputSize).sum + (right.map size).sum ≤
        ((levelInputs pair right).map inputSize).sum + (left.map size).sum := by
  induction left using levelInputs.induct generalizing right with
  | case1 =>
      cases below with
      | nil => exact ⟨.nil, le_rfl⟩
  | case2 last =>
      cases below with
      | @cons _ other _ _ head tail =>
          cases tail with
          | nil =>
              refine ⟨.cons (by rw [additive, additive]; omega) .nil, ?_⟩
              simp only [levelInputs, List.map_cons, List.map_nil, List.sum_cons, List.sum_nil,
                additive]
              omega
  | case3 first second rest ih =>
      cases below with
      | cons head tail =>
          cases tail with
          | cons next tail =>
              rcases ih _ tail with ⟨restBelow, restGap⟩
              refine ⟨.cons (by rw [additive, additive]; omega) restBelow, ?_⟩
              simp only [levelInputs, List.map_cons, List.sum_cons, additive]
              omega

theorem next_level_sizes (kept : ∀ input, size (hash input) = inputSize input)
    (level : List Digest) :
    (nextLevel hash pair level).map size = (levelInputs pair level).map inputSize := by
  rw [nextLevel, List.map_map]
  exact List.map_congr_left fun input _ => kept input

theorem passes_keep_gap (kept : ∀ input, size (hash input) = inputSize input)
    (additive : ∀ left right, inputSize (pair left right) = size left + size right)
    (count : Nat) (left right : List Digest) (below : Below size left right)
    (gap : (left.map size).sum < (right.map size).sum) :
    (nextLevel hash pair)^[count] left ≠ (nextLevel hash pair)^[count] right := by
  induction count generalizing left right with
  | zero =>
      intro same
      rw [Function.iterate_zero, id, id] at same
      rw [same] at gap
      exact lt_irrefl _ gap
  | succ count ih =>
      rcases level_inputs_below additive left right below with ⟨inputsBelow, inputsGap⟩
      rw [Function.iterate_succ_apply, Function.iterate_succ_apply]
      apply ih
      · rw [Below, nextLevel, nextLevel, List.forall₂_map_left_iff, List.forall₂_map_right_iff]
        exact inputsBelow.imp fun first second smaller => by rwa [kept, kept]
      · rw [next_level_sizes kept, next_level_sizes kept]
        omega

end Measure

end CatalystSvm.Library.MerkleLevels
