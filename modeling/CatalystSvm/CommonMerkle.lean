import Mathlib.Data.List.Basic
import Std.Data.ExtTreeMap
import CatalystSvm.Library.MerkleLevels
import CatalystSvm.Library.TextFraming

/-!
# Hashing and Merkle commitments

Transcription of `crates/common/src/merkle.rs`. SHA-256 followed by hex encoding
is a parameter `hashBytes`; nothing is assumed about it until a theorem names an
assumption. Next to each hashing function stands the list of the strings it
hashes, so that collision statements speak about the strings of a run and about
no others.
-/

namespace CatalystSvm.CommonMerkle

open CatalystSvm.Library.MerkleLevels
open CatalystSvm.Library.TextFraming

set_option autoImplicit false

/-- `hash_bytes`: SHA-256 of a byte string, hex encoded. -/
abbrev HashBytes := List UInt8 → String

/-- `BTreeMap<String, u64>`; iteration is in key order. -/
abbrev State := Std.ExtTreeMap String UInt64

def asBytes (text : String) : List UInt8 := text.toUTF8.data.toList

def hashStr (hashBytes : HashBytes) (text : String) : String := hashBytes (asBytes text)

def concat (left right : String) : String := left ++ right

/-- `merkle_root`. An odd last node is concatenated with itself. -/
def merkleRoot (hashBytes : HashBytes) (leaves : List String) : String :=
  if leaves.isEmpty then hashBytes (asBytes "empty")
  else if leaves.length = 1 then leaves.headD ""
  else (levelLoop (hashStr hashBytes) concat leaves.length leaves).headD ""

def merkleRootInputs (hashBytes : HashBytes) (leaves : List String) : List String :=
  if leaves.isEmpty then ["empty"]
  else loopInputs (hashStr hashBytes) concat leaves.length leaves

def leafText (entry : String × UInt64) : String := entry.1 ++ ":" ++ toString entry.2

def stateRoot (hashBytes : HashBytes) (state : State) : String :=
  let leaves := state.toList.map fun entry => hashStr hashBytes (leafText entry)
  if leaves.isEmpty then hashBytes (asBytes "empty_state") else merkleRoot hashBytes leaves

def entryText (txId : String) (success : Bool) (computeUsed : UInt64)
    (readSet writeSet : List String) : String :=
  "tx:" ++ txId ++ ":success:" ++ toString success ++ ":cu:" ++ toString computeUsed ++
    ":reads:" ++ ",".intercalate readSet ++ ":writes:" ++ ",".intercalate writeSet

def hashTraceEntry (hashBytes : HashBytes) (txId : String) (success : Bool)
    (computeUsed : UInt64) (readSet writeSet : List String) : String :=
  hashStr hashBytes (entryText txId success computeUsed readSet writeSet)

/-- Hex encoding of 32 bytes: 64 lower-case hexadecimal digits. -/
def HexDigest (text : String) : Prop :=
  text.length = 64 ∧ ∀ char ∈ text.toList, char ∈ "0123456789abcdef".toList

/-- A small digest of the right shape, for runs on concrete inputs. -/
def sampleDigest : HashBytes := fun bytes =>
  let value := bytes.foldl (fun sum byte => (sum * 257 + byte.toNat + 1) % 2 ^ 256) 0
  String.ofList ((List.range 64).map fun place => Nat.digitChar (value / 16 ^ place % 16))

theorem sample_digest_length (text : String) : (hashStr sampleDigest text).length = 64 := by
  simp [hashStr, sampleDigest]

theorem concat_splits : PairSplits concat fun text => text.length = 64 := by
  intro left right otherLeft otherRight leftLength _ otherLength _ same
  exact append_split_of_length (leftLength.trans otherLength.symm) same

/-- On a non-empty list the root is the single node left by the passes. -/
theorem merkle_root_is_top (hashBytes : HashBytes) (leaves : List String)
    (nonempty : leaves ≠ []) :
    (nextLevel (hashStr hashBytes) concat)^[height leaves] leaves =
      [merkleRoot hashBytes leaves] := by
  rw [← level_loop_eq_iterate (hashStr hashBytes) concat leaves.length leaves le_rfl]
  obtain ⟨top, single⟩ := List.length_eq_one_iff.mp
    (level_loop_length (hashStr hashBytes) concat leaves.length leaves nonempty le_rfl)
  have notEmpty : leaves.isEmpty = false := by simpa using nonempty
  rw [merkleRoot, notEmpty]
  simp only [Bool.false_eq_true, if_false]
  split_ifs with one
  · obtain ⟨leaf, rfl⟩ := List.length_eq_one_iff.mp one
    simp [levelLoop]
  · rw [single]
    rfl

theorem merkle_root_inputs_eq_passes (hashBytes : HashBytes) (leaves : List String)
    (nonempty : leaves ≠ []) :
    merkleRootInputs hashBytes leaves =
      passInputs (hashStr hashBytes) concat (height leaves) leaves := by
  have notEmpty : leaves.isEmpty = false := by simpa using nonempty
  rw [merkleRootInputs, notEmpty]
  exact loop_inputs_eq_pass_inputs (hashStr hashBytes) concat leaves.length leaves le_rfl

/-- Equally many 64-character leaves are bound by the root. -/
theorem equal_length_leaves_bound (hashBytes : HashBytes)
    (digests : ∀ text, (hashStr hashBytes text).length = 64) (left right : List String)
    (lengths : left.length = right.length)
    (leftDigests : ∀ leaf ∈ left, leaf.length = 64)
    (rightDigests : ∀ leaf ∈ right, leaf.length = 64)
    (safe : CollisionFree (hashStr hashBytes)
      (merkleRootInputs hashBytes left ++ merkleRootInputs hashBytes right))
    (same : merkleRoot hashBytes left = merkleRoot hashBytes right) : left = right := by
  by_cases empty : left = []
  · subst left
    exact (List.length_eq_zero_iff.mp lengths.symm).symm
  have otherNonempty : right ≠ [] := by
    intro rightEmpty
    subst right
    exact empty (List.length_eq_zero_iff.mp lengths)
  rw [merkle_root_inputs_eq_passes hashBytes left empty,
    merkle_root_inputs_eq_passes hashBytes right otherNonempty] at safe
  have heights : height left = height right := by rw [height, height, lengths]
  have tops : (nextLevel (hashStr hashBytes) concat)^[height left] left =
      (nextLevel (hashStr hashBytes) concat)^[height left] right := by
    rw [merkle_root_is_top hashBytes left empty, heights,
      merkle_root_is_top hashBytes right otherNonempty, same]
  rw [← heights] at safe
  exact passes_inj_of_length concat_splits digests (height left) left right lengths
    leftDigests rightDigests safe tops

end CatalystSvm.CommonMerkle
