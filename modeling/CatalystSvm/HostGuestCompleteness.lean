import CatalystSvm.ProvabilityBoundary

/-!
# When an honestly executed batch is provable

The executor's trace is accepted by the guest exactly when no transaction of the
batch diverges. Nothing is assumed about the hash. For batches whose compute
could leave `u64` the total alone no longer decides, and the entry texts have to:
a hash that keeps the length of its input already tells the two traces apart.
-/

namespace CatalystSvm.HostGuestCompleteness

open CatalystSvm.CommonTypes CatalystSvm.CommonMerkle CatalystSvm.MachineArithmetic
open CatalystSvm.LedgerMachine CatalystSvm.ProverInputs CatalystSvm.ProvabilityBoundary
open CatalystSvm.Library.MerkleLevels
open CatalystSvm.ExecutionEngine (DeterministicExecutor FullExecutor hostText submissionOf)
open CatalystSvm.GuestProgram (reportText guestReport)

set_option autoImplicit false

def lengthHash (bytes : List UInt8) : String := String.ofList (List.replicate bytes.length 'x')

theorem replicate_size (count : Nat) :
    (String.ofList (List.replicate count 'x')).utf8ByteSize = count := by
  induction count with
  | zero => rfl
  | succ count ih =>
      rw [List.replicate_succ, String.ofList_cons, String.utf8ByteSize_append, ih]
      exact Nat.add_comm 1 count

theorem length_hash_size (text : String) :
    (hashStr lengthHash text).utf8ByteSize = text.utf8ByteSize := by
  rw [hashStr, lengthHash, replicate_size]
  simp [asBytes, String.toUTF8]

theorem concat_size (left right : String) :
    (concat left right).utf8ByteSize = left.utf8ByteSize + right.utf8ByteSize :=
  String.utf8ByteSize_append

theorem entry_text_size (txId : String) (success : Bool) (computeUsed : UInt64)
    (readSet writeSet : List String) :
    (entryText txId success computeUsed readSet writeSet).utf8ByteSize =
      31 + txId.utf8ByteSize + (toString success).utf8ByteSize +
        (toString computeUsed).utf8ByteSize + (",".intercalate readSet).utf8ByteSize +
        (",".intercalate writeSet).utf8ByteSize := by
  have marks : "tx:".utf8ByteSize = 3 ∧ ":success:".utf8ByteSize = 9 ∧ ":cu:".utf8ByteSize = 4 ∧
      ":reads:".utf8ByteSize = 7 ∧ ":writes:".utf8ByteSize = 8 := by decide
  simp only [entryText, String.utf8ByteSize_append, marks]
  omega

theorem texts_size {executor : DeterministicExecutor} (cap : 5000 ≤ executor.maxCuPerTx)
    {tx : Transaction} {outcome : Outcome} (performed : Performed (transactionCall tx) outcome) :
    (hostText executor (submissionOf tx) outcome).utf8ByteSize +
        (if isOverdrawn outcome then 1 else 0) + (if unknownOpcode tx then 1 else 0) ≤
      (reportText (serializableTransaction tx)
        (guestReport tx.sender (decode tx.instructionData) outcome)).utf8ByteSize := by
  by_cases plain : isOverdrawn outcome = false ∧ unknownOpcode tx = false
  · rw [texts_agree cap performed plain.1 plain.2, plain.1, plain.2]
    exact le_rfl
  rcases performed with ⟨mode, state, next, stepped⟩
  have shape := perform_spec stepped
  change Performs mode state tx.sender (decode tx.instructionData) next outcome at shape
  rw [unknown_opcode_eq] at plain ⊢
  generalize decode tx.instructionData = instruction at shape plain ⊢
  cases shape with
  | overdrawn short =>
      have shorter : (toString (0 : UInt64)).utf8ByteSize + 1 ≤
        (toString (5000 : UInt64)).utf8ByteSize := by decide
      have noReads : (",".intercalate ([] : List String)).utf8ByteSize = 0 := by decide
      simp only [hostText, reportText, guestReport, entry_text_size, isOverdrawn, submissionOf,
        serializableTransaction, noReads, if_true, Bool.false_eq_true, if_false]
      omega
  | refusedUnknown =>
      have shorter : (toString (0 : UInt64)).utf8ByteSize + 1 ≤
        (toString (500 : UInt64)).utf8ByteSize := by decide
      simp only [hostText, reportText, guestReport, entry_text_size, isOverdrawn, submissionOf,
        serializableTransaction, if_true, Bool.false_eq_true, if_false]
      omega
  | _ => exact absurd ⟨rfl, rfl⟩ plain

section Runs

variable {executor : DeterministicExecutor} (cap : 5000 ≤ executor.maxCuPerTx)
variable {transactions : List Transaction} {outcomes : List Outcome}

include cap in
theorem host_texts_below
    (performed : List.Forall₂ (fun tx outcome => Performed (transactionCall tx) outcome)
      transactions outcomes) :
    Below String.utf8ByteSize (hostTexts executor transactions outcomes)
        (guestTexts transactions outcomes) ∧
      ((hostTexts executor transactions outcomes).map String.utf8ByteSize).sum +
          outcomes.countP isOverdrawn + transactions.countP unknownOpcode ≤
        ((guestTexts transactions outcomes).map String.utf8ByteSize).sum := by
  induction performed with
  | nil => exact ⟨.nil, le_rfl⟩
  | @cons tx outcome rest others head tail ih =>
      rw [guest_texts_cons, host_texts_cons]
      have headSize := texts_size cap head
      rcases ih with ⟨restBelow, restSum⟩
      constructor
      · exact .cons (by omega) restBelow
      · simp only [List.map_cons, List.sum_cons, List.countP_cons]
        omega

include cap in
/-- Under the length hash the two Merkle roots differ once a transaction diverges. -/
theorem length_hash_separates
    (performed : List.Forall₂ (fun tx outcome => Performed (transactionCall tx) outcome)
      transactions outcomes)
    (divergent : outcomes.countP isOverdrawn + transactions.countP unknownOpcode ≠ 0) :
    merkleRoot lengthHash ((guestTexts transactions outcomes).map (hashStr lengthHash)) ≠
      merkleRoot lengthHash
        ((hostTexts executor transactions outcomes).map (hashStr lengthHash)) := by
  rcases host_texts_below cap performed with ⟨below, gap⟩
  generalize hostTexts executor transactions outcomes = host at below gap ⊢
  generalize guestTexts transactions outcomes = guest at below gap ⊢
  have lengths := List.Forall₂.length_eq below
  have guestNonempty : guest ≠ [] := by
    intro empty
    subst empty
    simp only [List.map_nil, List.sum_nil] at gap
    omega
  have hostNonempty : host ≠ [] := by
    intro empty
    subst empty
    exact guestNonempty (List.length_eq_zero_iff.mp lengths.symm)
  have sizes (texts : List String) :
      (texts.map (hashStr lengthHash)).map String.utf8ByteSize =
        texts.map String.utf8ByteSize := by
    rw [List.map_map]
    exact List.map_congr_left fun text _ => length_hash_size text
  have hashedBelow : Below String.utf8ByteSize (host.map (hashStr lengthHash))
      (guest.map (hashStr lengthHash)) := by
    rw [Below, List.forall₂_map_left_iff, List.forall₂_map_right_iff]
    apply below.imp
    intro first second smaller
    rwa [length_hash_size, length_hash_size]
  have tops : (nextLevel (hashStr lengthHash) concat)^[height (host.map (hashStr lengthHash))]
      (host.map (hashStr lengthHash)) ≠ _ :=
    passes_keep_gap length_hash_size concat_size _ _ _ hashedBelow (by rw [sizes, sizes]; omega)
  intro same
  apply tops
  rw [merkle_root_is_top lengthHash _ (by simpa using hostNonempty), ← same,
    ← merkle_root_is_top lengthHash _ (by simpa using guestNonempty)]
  simp only [height, List.length_map, lengths]

end Runs

section Completeness

variable {hashBytes : HashBytes} {maxCuPerTx : UInt64} {mode : OverflowMode} {batch : Batch}
variable {transactions : List Transaction} {trace : ExecutionTrace}

theorem executed_under_any_hash (other : HashBytes)
    (executed : (FullExecutor.new maxCuPerTx).executeWithTransactions hashBytes mode batch
      transactions = some trace) :
    ∃ otherTrace, (FullExecutor.new maxCuPerTx).executeWithTransactions other mode batch
      transactions = some otherTrace := by
  rcases ExecutionEngine.execute_submissions_some hashBytes _ rfl mode batch _ trace executed with
    ⟨final, outcomes, ran, accumulated, _⟩
  exact ExecutionEngine.execute_submissions_completes other _ rfl mode batch _ final outcomes _
    ran accumulated

theorem divergence_free_of_accepted (cap : 5000 ≤ maxCuPerTx)
    (executed : (FullExecutor.new maxCuPerTx).executeWithTransactions lengthHash mode batch
      transactions = some trace)
    (accepted : ∃ committed, GuestProgram.main lengthHash mode
      (guestStdin trace transactions (proverInitialState transactions)) = some committed) :
    DivergenceFree mode (proverInitialState transactions) transactions := by
  rcases ledger_run_of_executed executed with ⟨final, outcomes, ledger⟩
  have capped : 5000 ≤ (DeterministicExecutor.new maxCuPerTx).maxCuPerTx := cap
  rw [divergence_free_iff ledger.ran]
  by_contra divergent
  exact length_hash_separates capped (run_performed ledger.ran) divergent
    ((guest_accepts_iff ledger).mp accepted).2

end Completeness

/-- Completeness for one batch and one reading of `u64` addition. -/
def AlwaysProvable (mode : OverflowMode) (batch : Batch) (transactions : List Transaction) :
    Prop :=
  ∀ hashBytes trace, (FullExecutor.new 200000).executeWithTransactions hashBytes mode batch
      transactions = some trace →
    ∃ committed, GuestProgram.main hashBytes mode (proveStdin trace transactions) = some committed

/-- An executed batch is provable exactly when no transaction diverges. With a
total below `2 ^ 64` this holds of every single hash. -/
theorem provable_iff_divergence_free (mode : OverflowMode) (batch : Batch)
    (transactions : List Transaction) (nonempty : transactions ≠ [])
    (returns : ∃ hashBytes trace, (FullExecutor.new 200000).executeWithTransactions hashBytes mode
      batch transactions = some trace) :
    (AlwaysProvable mode batch transactions ↔
      DivergenceFree mode (proverInitialState transactions) transactions) ∧
    (5000 * transactions.length < 2 ^ 64 → ∀ hashBytes trace,
      (FullExecutor.new 200000).executeWithTransactions hashBytes mode batch transactions =
        some trace →
      ((∃ committed, GuestProgram.main hashBytes mode (proveStdin trace transactions) =
          some committed) ↔
        DivergenceFree mode (proverInitialState transactions) transactions)) := by
  have cap : (5000 : UInt64) ≤ 200000 := by decide
  refine ⟨⟨?_, ?_⟩, ?_⟩
  · intro provable
    rcases returns with ⟨hashBytes, trace, executed⟩
    rcases executed_under_any_hash lengthHash executed with ⟨lengthTrace, lengthExecuted⟩
    have accepted := provable lengthHash lengthTrace lengthExecuted
    rw [prove_stdin_of_nonempty lengthTrace transactions nonempty] at accepted
    exact divergence_free_of_accepted cap lengthExecuted accepted
  · intro free hashBytes trace executed
    rcases ledger_run_of_executed executed with ⟨final, outcomes, ledger⟩
    rw [prove_stdin_of_nonempty trace transactions nonempty]
    exact accepted_of_no_divergent cap ledger ((divergence_free_iff ledger.ran).mp free)
  · intro fits hashBytes trace executed
    rcases ledger_run_of_executed executed with ⟨final, outcomes, ledger⟩
    rw [prove_stdin_of_nonempty trace transactions nonempty, divergence_free_iff ledger.ran]
    exact accepted_iff_no_divergent cap fits ledger

/-- Five to `account_7`, then one into slot 5. -/
def paymentBatch : List Transaction :=
  [sampleTransaction [0, 5, 0, 0, 0, 0, 0, 0, 0, 7, 0, 0, 0, 0, 0, 0, 0],
    sampleTransaction [1, 5, 0, 0, 0, 0, 0, 0, 0, 1, 0, 0, 0, 0, 0, 0, 0]]

theorem payment_batch_is_provable :
    AlwaysProvable .wrapping (Batch.new "batch_0" 0) paymentBatch := by
  have returns := ExecutionEngine.execute_submissions_wrapping_total lengthHash
    (FullExecutor.new 200000).inner rfl (Batch.new "batch_0" 0) (paymentBatch.map submissionOf)
  have free : (run .wrapping (proverInitialState paymentBatch)
      (paymentBatch.map transactionCall)).map (fun ran =>
        ran.2.countP isOverdrawn + paymentBatch.countP unknownOpcode) = some 0 := by
    decide +kernel
  obtain ⟨⟨final, outcomes⟩, ran, none⟩ := Option.map_eq_some_iff.mp free
  apply (provable_iff_divergence_free .wrapping (Batch.new "batch_0" 0) paymentBatch
    (by simp [paymentBatch]) ⟨lengthHash, returns⟩).1.mpr
  exact (divergence_free_iff ran).mpr none

/-- The opcode 4: the host charges nothing for it, the guest 500. -/
theorem unknown_opcode_batch_is_rejected :
    ∃ trace, (FullExecutor.new 200000).executeWithTransactions lengthHash .wrapping
        (Batch.new "batch_0" 0) [sampleTransaction [4]] = some trace ∧
      trace.totalCompute = 0 ∧
      GuestProgram.main lengthHash .wrapping (proveStdin trace [sampleTransaction [4]]) = none := by
  refine ⟨_, rfl, ?_, ?_⟩
  · decide
  · decide

end CatalystSvm.HostGuestCompleteness
