import CatalystSvm.TraceBuilding

/-!
# The state root binds the state

The tree has neither tags nor a length, so everything has to come from the shape
of the texts. A leaf text contains a colon, a pair of digests does not, and the
text of the empty state is neither. Keys are distinct, so no level repeats a
node and a duplicated odd end can be recognised.
-/

namespace CatalystSvm.StateRootBinding

open CatalystSvm.CommonMerkle CatalystSvm.TraceBuilding
open CatalystSvm.Library.MerkleLevels CatalystSvm.Library.TextFraming

set_option autoImplicit false

theorem leaf_text_injective {left right : String × UInt64}
    (same : leafText left = leafText right) : left = right := by
  unfold leafText at same
  rw [String.append_assoc, String.append_assoc] at same
  rcases text_after_last_mark (decimal_mark_free ':' rfl left.2) (decimal_mark_free ':' rfl right.2)
    same with ⟨keys, values⟩
  exact Prod.ext keys (decimal_injective values)

theorem leaf_text_has_colon (entry : String × UInt64) : ':' ∈ (leafText entry).toList := by
  simp [leafText]

theorem leaf_texts_nodup (state : State) : (state.toList.map leafText).Nodup := by
  apply List.Nodup.map
  · intro left right same
    exact leaf_text_injective same
  · apply List.Pairwise.imp _ (Std.ExtTreeMap.distinct_keys_toList (t := state))
    intro left right different equal
    apply different
    rw [equal]
    exact Std.ReflCmp.compare_self

theorem digest_pair_has_no_colon {left right : String} (leftHex : HexDigest left)
    (rightHex : HexDigest right) : ':' ∉ (concat left right).toList := by
  intro member
  rw [concat, String.toList_append, List.mem_append] at member
  have notDigit : ':' ∉ "0123456789abcdef".toList := by decide
  rcases member with inLeft | inRight
  · exact notDigit (leftHex.2 ':' inLeft)
  · exact notDigit (rightHex.2 ':' inRight)

theorem leaf_is_no_pair (entry : String × UInt64) {left right : String} (leftHex : HexDigest left)
    (rightHex : HexDigest right) : leafText entry ≠ concat left right := by
  intro same
  apply digest_pair_has_no_colon leftHex rightHex
  rw [← same]
  exact leaf_text_has_colon entry

theorem empty_state_is_no_leaf (entry : String × UInt64) : leafText entry ≠ "empty_state" := by
  intro same
  have member := leaf_text_has_colon entry
  rw [same] at member
  exact absurd member (by decide)

theorem empty_state_is_no_pair {left right : String} (leftHex : HexDigest left)
    (rightHex : HexDigest right) : concat left right ≠ "empty_state" := by
  intro same
  have lengths := congrArg String.length same
  rw [concat, String.length_append, leftHex.1, rightHex.1] at lengths
  exact absurd lengths (by decide)

theorem hex_pair_splits : PairSplits concat HexDigest := by
  intro left right otherLeft otherRight leftHex rightHex otherLeftHex otherRightHex same
  exact concat_splits _ _ _ _ leftHex.1 rightHex.1 otherLeftHex.1 otherRightHex.1 same

section Binding

variable (hashBytes : HashBytes) {state : State}

theorem leaf_texts_nonempty (filled : state.isEmpty = false) :
    state.toList.map leafText ≠ [] := by
  intro empty
  have listEmpty : state.toList.isEmpty = true := by simpa using empty
  rw [Std.ExtTreeMap.isEmpty_toList, filled] at listEmpty
  exact Bool.noConfusion listEmpty

theorem root_is_top (filled : state.isEmpty = false) :
    (nextLevel (hashStr hashBytes) concat)^[height ((state.toList.map leafText).map
        (hashStr hashBytes))] ((state.toList.map leafText).map (hashStr hashBytes)) =
      [computeStateRoot hashBytes state] := by
  have nonempty := leaf_texts_nonempty filled
  rw [merkle_root_is_top hashBytes _ (by simpa using nonempty), computeStateRoot, filled,
    List.map_map]
  rfl

theorem root_inputs_eq_tree (filled : state.isEmpty = false) :
    stateRootInputs hashBytes state =
      treeInputs (hashStr hashBytes) concat (state.toList.map leafText) := by
  have nonempty := leaf_texts_nonempty filled
  rw [treeInputs, ← merkle_root_inputs_eq_passes hashBytes _ (by simpa using nonempty),
    stateRootInputs, filled, List.map_map]
  rfl

variable (hex : ∀ text, HexDigest (hashStr hashBytes text))

include hex in
/-- The root of a non-empty state is the digest of one of its hashed strings,
and that string is not the text of the empty state. -/
theorem root_preimage (filled : state.isEmpty = false) :
    ∃ input ∈ stateRootInputs hashBytes state,
      computeStateRoot hashBytes state = hashStr hashBytes input ∧ input ≠ "empty_state" := by
  have top := root_is_top hashBytes filled
  rw [root_inputs_eq_tree hashBytes filled, treeInputs]
  cases levels : height ((state.toList.map leafText).map (hashStr hashBytes)) with
  | zero =>
      rw [levels, Function.iterate_zero, id] at top
      rcases List.map_eq_singleton_iff.mp top with ⟨text, single, digest⟩
      rcases List.map_eq_singleton_iff.mp single with ⟨entry, _, rfl⟩
      exact ⟨leafText entry, by simp [single], digest.symm, empty_state_is_no_leaf entry⟩
  | succ levels' =>
      rw [levels] at top
      have member : computeStateRoot hashBytes state ∈
          (nextLevel (hashStr hashBytes) concat)^[levels' + 1]
            ((state.toList.map leafText).map (hashStr hashBytes)) := by
        rw [top]
        exact List.mem_singleton_self _
      rcases passed_node_is_hashed_pair hex levels' _ (hashed_leaves_well_formed hex _) _ member
        with ⟨input, inside, digest, left, right, leftHex, rightHex, rfl⟩
      exact ⟨concat left right, List.mem_append_right _ inside, digest,
        empty_state_is_no_pair leftHex rightHex⟩

include hex in
theorem empty_root_is_separate {left right : State} (empty : left.isEmpty = true)
    (filled : right.isEmpty = false)
    (same : computeStateRoot hashBytes left = computeStateRoot hashBytes right) :
    Collision (hashStr hashBytes)
      (stateRootInputs hashBytes left ++ stateRootInputs hashBytes right) := by
  rcases root_preimage hashBytes hex filled with ⟨input, inside, digest, different⟩
  refine ⟨"empty_state", ?_, input, List.mem_append_right _ inside, different.symm, ?_⟩
  · rw [stateRootInputs, empty]
    exact List.mem_append_left _ (List.mem_singleton_self _)
  · rw [← digest, ← same, computeStateRoot, empty]
    rfl

include hex in
theorem filled_roots_bind {left right : State} (leftFilled : left.isEmpty = false)
    (rightFilled : right.isEmpty = false)
    (safe : CollisionFree (hashStr hashBytes)
      (stateRootInputs hashBytes left ++ stateRootInputs hashBytes right))
    (same : computeStateRoot hashBytes left = computeStateRoot hashBytes right) : left = right := by
  rw [root_inputs_eq_tree hashBytes leftFilled, root_inputs_eq_tree hashBytes rightFilled] at safe
  have texts : left.toList.map leafText = right.toList.map leafText := by
    apply distinct_leaves_bound hex_pair_splits hex _ _ (leaf_texts_nonempty leftFilled)
      (leaf_texts_nonempty rightFilled) (leaf_texts_nodup left) (leaf_texts_nodup right) _ safe
    · rw [root_is_top hashBytes leftFilled, root_is_top hashBytes rightFilled, same]
    · intro input member first second firstHex secondHex
      rw [← List.map_append, List.mem_map] at member
      rcases member with ⟨entry, _, rfl⟩
      exact leaf_is_no_pair entry firstHex secondHex
  have lists := List.map_injective_iff.mpr (fun first second => leaf_text_injective) texts
  exact Std.ExtTreeMap.toList_inj.mp lists

end Binding

/-- Two different states with one root expose two different strings, hashed for
the two roots, with the same digest. -/
theorem state_root_binds_state (hashBytes : HashBytes)
    (hex : ∀ text, HexDigest (hashStr hashBytes text)) (left right : State)
    (same : computeStateRoot hashBytes left = computeStateRoot hashBytes right)
    (different : left ≠ right) :
    Collision (hashStr hashBytes)
      (stateRootInputs hashBytes left ++ stateRootInputs hashBytes right) := by
  cases leftEmpty : left.isEmpty with
  | true =>
      cases rightEmpty : right.isEmpty with
      | true =>
          rw [Std.ExtTreeMap.isEmpty_iff] at leftEmpty rightEmpty
          exact absurd (leftEmpty.trans rightEmpty.symm) different
      | false => exact empty_root_is_separate hashBytes hex leftEmpty rightEmpty same
  | false =>
      cases rightEmpty : right.isEmpty with
      | true =>
          rcases empty_root_is_separate hashBytes hex rightEmpty leftEmpty same.symm with
            ⟨first, firstMember, second, secondMember, unequal, digest⟩
          rw [List.mem_append, or_comm, ← List.mem_append] at firstMember secondMember
          exact ⟨first, firstMember, second, secondMember, unequal, digest⟩
      | false =>
          by_contra noCollision
          exact different (filled_roots_bind hashBytes hex leftEmpty rightEmpty
            (collision_free_of_not_collision noCollision) same)

/-- A digest that ignores its input: the balances 1 and 2 of one account collide. -/
def constantDigest : HashBytes := fun _ => String.ofList (List.replicate 64 '0')

theorem constant_digest_hex (text : String) : HexDigest (hashStr constantDigest text) := by
  unfold HexDigest hashStr constantDigest
  rw [String.toList_ofList, String.length_ofList]
  refine ⟨List.length_replicate, ?_⟩
  intro char member
  rw [List.eq_of_mem_replicate member]
  decide

theorem constant_digest_states_collide :
    Collision (hashStr constantDigest)
      (stateRootInputs constantDigest ((∅ : State).insert "account_1" 1) ++
        stateRootInputs constantDigest ((∅ : State).insert "account_1" 2)) :=
  state_root_binds_state constantDigest constant_digest_hex _ _ (by decide +kernel)
    (by decide +kernel)

end CatalystSvm.StateRootBinding
