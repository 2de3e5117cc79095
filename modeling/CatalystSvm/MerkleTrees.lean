import CatalystSvm.GuestProgram

/-!
# The Merkle root as a commitment and as a tree

The host and the guest carry the same loop. It is compared with the tree that is
cut at the largest power of two below the number of leaves, and its root is shown
to bind equally many leaves up to a collision among the strings it hashed.
-/

namespace CatalystSvm.MerkleTrees

open CatalystSvm.CommonMerkle CatalystSvm.Library.MerkleLevels

set_option autoImplicit false

section Tree

variable (hashBytes : HashBytes)

def treeRoot (leaves : List String) (nonempty : leaves ≠ []) : String :=
  topDownRoot (hashStr hashBytes) concat leaves nonempty

theorem merkle_root_eq_tree_root (leaves : List String) (nonempty : leaves ≠ []) :
    merkleRoot hashBytes leaves = treeRoot hashBytes leaves nonempty := by
  have loop := merkle_root_is_top hashBytes leaves nonempty
  have tree := passes_top_down (hashStr hashBytes) concat leaves nonempty
  rw [loop] at tree
  exact List.singleton_inj.mp tree

theorem loop_ends_in_tree_root (leaves : List String) (nonempty : leaves ≠ []) (fuel : Nat)
    (enough : leaves.length ≤ fuel) :
    levelLoop (hashStr hashBytes) concat fuel leaves = [treeRoot hashBytes leaves nonempty] := by
  rw [level_loop_eq_iterate _ _ fuel leaves enough]
  exact passes_top_down (hashStr hashBytes) concat leaves nonempty

/-- Both halves of a cut are roots of the loop again; the right one is lifted. -/
theorem merkle_root_split (leaves : List String) {count : Nat}
    (above : 2 ^ count < leaves.length) (within : leaves.length ≤ 2 ^ (count + 1)) :
    merkleRoot hashBytes leaves =
      hashStr hashBytes (merkleRoot hashBytes (leaves.take (2 ^ count)) ++
        lifted (hashStr hashBytes) concat (count - height (leaves.drop (2 ^ count)))
          (merkleRoot hashBytes (leaves.drop (2 ^ count)))) := by
  have nonempty : leaves ≠ [] := by
    apply List.ne_nil_of_length_pos
    exact Nat.lt_of_le_of_lt (Nat.zero_le _) above
  obtain ⟨leftNonempty, rightNonempty, cut⟩ :=
    top_down_root_split (hashStr hashBytes) concat nonempty above within
  rw [merkle_root_eq_tree_root hashBytes leaves nonempty,
    merkle_root_eq_tree_root hashBytes _ leftNonempty,
    merkle_root_eq_tree_root hashBytes _ rightNonempty]
  exact cut

/-- The loop ends with one node on either side, and that node is the root of the
tree: a leaf alone, or the hash of two subtrees. -/
theorem merkle_loop_is_recursive_tree (leaves : List String) (nonempty : leaves ≠ []) :
    (∀ fuel, leaves.length ≤ fuel →
      levelLoop (hashStr hashBytes) concat fuel leaves = [treeRoot hashBytes leaves nonempty]) ∧
    merkleRoot hashBytes leaves = treeRoot hashBytes leaves nonempty ∧
    GuestProgram.merkleRoot hashBytes leaves = some (treeRoot hashBytes leaves nonempty) ∧
    (∀ leaf, leaves = [leaf] → treeRoot hashBytes leaves nonempty = leaf) ∧
    ∀ count, 1 ≤ count → 2 ^ (count - 1) < leaves.length → leaves.length ≤ 2 ^ count →
      treeRoot hashBytes leaves nonempty =
        hashStr hashBytes (merkleRoot hashBytes (leaves.take (2 ^ (count - 1))) ++
          lifted (hashStr hashBytes) concat
            (count - 1 - height (leaves.drop (2 ^ (count - 1))))
            (merkleRoot hashBytes (leaves.drop (2 ^ (count - 1))))) := by
  have root := merkle_root_eq_tree_root hashBytes leaves nonempty
  constructor
  · exact loop_ends_in_tree_root hashBytes leaves nonempty
  constructor
  · exact root
  constructor
  · rw [GuestProgram.merkle_root_eq, root]
  constructor
  · intro leaf single
    subst leaves
    rw [← root]
    rfl
  · intro count positive above within
    obtain ⟨lower, rfl⟩ := Nat.exists_eq_add_of_le' positive
    rw [← root]
    exact merkle_root_split hashBytes leaves above within

/-- Five leaves are cut into four and one, and the last leaf is lifted twice. -/
theorem five_leaves_tree :
    treeRoot sampleDigest ["a", "b", "c", "d", "e"] (by simp) =
      hashStr sampleDigest (merkleRoot sampleDigest ["a", "b", "c", "d"] ++
        lifted (hashStr sampleDigest) concat 2 "e") := by
  have tree := merkle_loop_is_recursive_tree sampleDigest ["a", "b", "c", "d", "e"] (by simp)
  have alone : height ["e"] = 0 := height_of_small ["e"] le_rfl
  have cut := tree.2.2.2.2 3 (by decide) (by decide) (by decide)
  simp only [Nat.add_one_sub_one, Nat.reducePow, List.take, List.drop, alone, Nat.sub_zero] at cut
  exact cut

end Tree

/-- Equally many 64-character leaves under one root, of the host or of the guest,
are the same leaves, or two strings hashed on the way collide. -/
theorem root_and_count_bind_leaves (hashBytes : HashBytes)
    (digests : ∀ text, (hashStr hashBytes text).length = 64) (left right : List String)
    (lengths : left.length = right.length)
    (leftDigests : ∀ leaf ∈ left, leaf.length = 64)
    (rightDigests : ∀ leaf ∈ right, leaf.length = 64)
    (same : merkleRoot hashBytes left = merkleRoot hashBytes right ∨
      GuestProgram.merkleRoot hashBytes left = GuestProgram.merkleRoot hashBytes right) :
    left = right ∨ Collision (hashStr hashBytes)
      (merkleRootInputs hashBytes left ++ merkleRootInputs hashBytes right) := by
  have roots : merkleRoot hashBytes left = merkleRoot hashBytes right := by
    cases same with
    | inl host => exact host
    | inr guest =>
        rw [GuestProgram.merkle_root_eq, GuestProgram.merkle_root_eq] at guest
        exact Option.some.inj guest
  by_cases collides : Collision (hashStr hashBytes)
      (merkleRootInputs hashBytes left ++ merkleRootInputs hashBytes right)
  · right
    exact collides
  · left
    exact equal_length_leaves_bound hashBytes digests left right lengths leftDigests rightDigests
      (collision_free_of_not_collision collides) roots

section Samples

def plainLeaf (char : Char) : String := String.ofList (List.replicate 64 char)

theorem constant_hash_collides :
    Collision (hashStr fun _ => plainLeaf '0')
      (merkleRootInputs (fun _ => plainLeaf '0') [plainLeaf 'a', plainLeaf 'b', plainLeaf 'c'] ++
        merkleRootInputs (fun _ => plainLeaf '0')
          [plainLeaf 'd', plainLeaf 'e', plainLeaf 'f']) := by
  have lengths (char : Char) : (plainLeaf char).length = 64 := by simp [plainLeaf]
  have outcome := root_and_count_bind_leaves (fun _ => plainLeaf '0')
    (fun _ => lengths '0') [plainLeaf 'a', plainLeaf 'b', plainLeaf 'c']
    [plainLeaf 'd', plainLeaf 'e', plainLeaf 'f'] rfl (by simp [lengths]) (by simp [lengths])
    (.inl rfl)
  apply outcome.resolve_left
  decide +kernel

end Samples

end CatalystSvm.MerkleTrees
