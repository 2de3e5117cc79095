import CatalystSvm.InterpreterSimulation

/-!
# What the committed public values determine

Two accepted runs of the guest are compared. The entry texts carry the account
names and the compute of a transaction but none of its amounts, and a
transaction identifier is written into them without escaping. Where identifiers
contain no colon and the amounts agree, the trace hash pins down the state change.
-/

namespace CatalystSvm.CommitmentBinding

open CatalystSvm.CommonMerkle CatalystSvm.MachineArithmetic CatalystSvm.LedgerMachine
open CatalystSvm.GuestProgram CatalystSvm.InterpreterSimulation
open CatalystSvm.TraceBuilding (stateRootInputs)
open CatalystSvm.Library.MerkleLevels CatalystSvm.Library.TextFraming CatalystSvm.Library.StepFold

set_option autoImplicit false

theorem entry_text_fields {txId otherId : String} {success otherSuccess : Bool}
    {compute otherCompute : UInt64} {reads otherReads writes otherWrites : List String}
    (idFree : ':' ∉ txId.toList) (otherFree : ':' ∉ otherId.toList)
    (same : entryText txId success compute reads writes =
      entryText otherId otherSuccess otherCompute otherReads otherWrites) :
    txId = otherId ∧ success = otherSuccess ∧ compute = otherCompute ∧
      ",".intercalate reads ++ ":writes:" ++ ",".intercalate writes =
        ",".intercalate otherReads ++ ":writes:" ++ ",".intercalate otherWrites := by
  have framed (id : String) (flag : Bool) (units : UInt64) (readSet writeSet : List String) :
      entryText id flag units readSet writeSet =
        "tx:" ++ (id ++ (String.singleton ':' ++ ("success:" ++ (toString flag ++
          (String.singleton ':' ++ ("cu:" ++ (toString units ++ (String.singleton ':' ++
            ("reads:" ++ (",".intercalate readSet ++ ":writes:" ++
              ",".intercalate writeSet)))))))))) := by
    have successMark : ":success:" = String.singleton ':' ++ "success:" := by decide
    have computeMark : ":cu:" = String.singleton ':' ++ "cu:" := by decide
    have readsMark : ":reads:" = String.singleton ':' ++ "reads:" := by decide
    rw [entryText, successMark, computeMark, readsMark]
    simp only [String.append_assoc]
  have flagFree (flag : Bool) : ':' ∉ (toString flag).toList := by cases flag <;> decide
  rw [framed, framed] at same
  have afterHeader := (append_split_of_length rfl same).2
  rcases text_before_first_mark idFree otherFree afterHeader with ⟨ids, afterId⟩
  rcases text_before_first_mark (flagFree success) (flagFree otherSuccess)
    (append_split_of_length rfl afterId).2 with ⟨flags, afterFlag⟩
  rcases text_before_first_mark (decimal_mark_free ':' rfl compute)
    (decimal_mark_free ':' rfl otherCompute) (append_split_of_length rfl afterFlag).2 with
    ⟨computes, afterCompute⟩
  refine ⟨ids, ?_, decimal_injective computes, (append_split_of_length rfl afterCompute).2⟩
  revert flags
  cases success <;> cases otherSuccess <;> decide

/-- Where the read set and the write set are the same, their common length is
half of what is left of the text. -/
theorem doubled_set {left right : String}
    (same : left ++ ":writes:" ++ left = right ++ ":writes:" ++ right) : left = right := by
  have lengths := congrArg String.length same
  simp only [String.length_append] at lengths
  rw [String.append_assoc, String.append_assoc] at same
  exact (append_split_of_length (by omega) same).1

theorem account_key_comma_free (index : UInt64) : ',' ∉ (accountKey index).toList := by
  intro member
  rw [accountKey, String.toList_append, List.mem_append] at member
  rcases member with inHeader | inIndex
  · exact absurd inHeader (by decide)
  · exact decimal_mark_free ',' rfl index inIndex

/-- The target key follows the last comma, whatever the sender contains. -/
theorem transfer_set {sender other : String} {targetIdx otherIdx : UInt64}
    (same : ",".intercalate [sender, accountKey targetIdx] =
      ",".intercalate [other, accountKey otherIdx]) :
    sender = other ∧ accountKey targetIdx = accountKey otherIdx := by
  have joined (first second : String) :
      ",".intercalate [first, second] = first ++ (String.singleton ',' ++ second) := by
    rw [← String.append_assoc]
    rfl
  rw [joined, joined] at same
  exact text_after_last_mark (account_key_comma_free targetIdx) (account_key_comma_free otherIdx)
    same

/-- The operand of an instruction that no entry text contains. -/
def hiddenOperand : Instruction → Option UInt64
  | .transfer amount _ => some amount
  | .setData _ value => some value
  | .increment _ delta => some delta
  | _ => none

theorem report_success (sender : String) (instruction : Instruction) (outcome : Outcome) :
    (guestReport sender instruction outcome).success = outcome.succeeded := by
  cases outcome with
  | applied reads writes compute => rfl
  | overdrawn needed available => rfl
  | refused => cases instruction <;> rfl

theorem failure_keeps_map {mode : OverflowMode} {state next : State} {sender : String}
    {instruction : Instruction} {outcome : Outcome}
    (shape : Performs mode state sender instruction next outcome)
    (failed : outcome.succeeded = false) : next = state := by
  cases shape <;> first | rfl | cases failed

section Step

variable {mode : OverflowMode} {state next otherNext : State}

/-- Two successes with the same compute, the same sets and the same hidden
operand move the map alike. The compute names the kind of the instruction, the
sets name its accounts. -/
theorem same_success_same_move {sender otherSender : String}
    {instruction otherInstruction : Instruction} {reads writes otherReads otherWrites : List String}
    {compute otherCompute : UInt64}
    (shape : Performs mode state sender instruction next (.applied reads writes compute))
    (otherShape : Performs mode state otherSender otherInstruction otherNext
      (.applied otherReads otherWrites otherCompute))
    (computes : compute = otherCompute)
    (sets : ",".intercalate reads ++ ":writes:" ++ ",".intercalate writes =
      ",".intercalate otherReads ++ ":writes:" ++ ",".intercalate otherWrites)
    (values : ∀ value otherValue, hiddenOperand instruction = some value →
      hiddenOperand otherInstruction = some otherValue → value = otherValue) :
    next = otherNext := by
  cases shape with
  | @transferred amount targetIdx credited covered added =>
      cases otherShape with
      | @transferred otherAmount otherIdx otherCredited otherCovered otherAdded =>
          rcases transfer_set (doubled_set sets) with ⟨rfl, targets⟩
          have amounts : amount = otherAmount := values _ _ rfl rfl
          subst amounts
          rw [targets] at added ⊢
          rw [added, Option.some.injEq] at otherAdded
          rw [otherAdded]
      | _ => exact absurd computes (by decide)
  | stored =>
      cases otherShape with
      | stored =>
          have keys := (append_split_of_length rfl sets).2
          change dataKey _ = dataKey _ at keys
          rw [keys, values _ _ rfl rfl]
      | _ => exact absurd computes (by decide)
  | incremented =>
      cases otherShape with
      | incremented =>
          have keys := doubled_set sets
          change dataKey _ = dataKey _ at keys
          rw [keys, values _ _ rfl rfl]
      | _ => exact absurd computes (by decide)
  | idle =>
      cases otherShape with
      | idle => rfl
      | _ => exact absurd computes (by decide)

def ValuesAgree (left right : SerializableTransaction × InstructionResult) : Prop :=
  left.2.success = true → right.2.success = true → ∀ value otherValue,
    hiddenOperand (decode left.1.instructionData) = some value →
    hiddenOperand (decode right.1.instructionData) = some otherValue → value = otherValue

theorem same_text_same_move {tx other : SerializableTransaction} {outcome otherOutcome : Outcome}
    (performed : performCall mode state tx.call = some (next, outcome))
    (otherPerformed : performCall mode state other.call = some (otherNext, otherOutcome))
    (idFree : ':' ∉ tx.txId.toList) (otherFree : ':' ∉ other.txId.toList)
    (same : reportText tx (guestReport tx.sender (decode tx.instructionData) outcome) =
      reportText other (guestReport other.sender (decode other.instructionData) otherOutcome))
    (values : ValuesAgree (tx, guestReport tx.sender (decode tx.instructionData) outcome)
      (other, guestReport other.sender (decode other.instructionData) otherOutcome)) :
    next = otherNext := by
  have shape := perform_spec performed
  have otherShape := perform_spec otherPerformed
  rcases entry_text_fields idFree otherFree same with ⟨_, flags, computes, sets⟩
  rw [report_success, report_success] at flags
  cases outcome with
  | applied reads writes compute =>
      cases otherOutcome with
      | applied otherReads otherWrites otherCompute =>
          exact same_success_same_move shape otherShape computes sets (values rfl rfl)
      | overdrawn needed available => cases flags
      | refused => cases flags
  | overdrawn needed available =>
      rw [failure_keeps_map shape rfl, failure_keeps_map otherShape flags.symm]
  | refused =>
      rw [failure_keeps_map shape rfl, failure_keeps_map otherShape flags.symm]

end Step

theorem same_texts_same_final {mode : OverflowMode} {state final otherFinal : State}
    {transactions others : List SerializableTransaction} {outcomes otherOutcomes : List Outcome}
    (ran : run mode state (transactions.map SerializableTransaction.call) = some (final, outcomes))
    (otherRan : run mode state (others.map SerializableTransaction.call) =
      some (otherFinal, otherOutcomes))
    (idsFree : ∀ tx ∈ transactions, ':' ∉ tx.txId.toList)
    (othersFree : ∀ tx ∈ others, ':' ∉ tx.txId.toList)
    (same : reportTexts transactions outcomes = reportTexts others otherOutcomes)
    (values : List.Forall₂ ValuesAgree (transactions.zip (reports transactions outcomes))
      (others.zip (reports others otherOutcomes))) : final = otherFinal := by
  induction transactions generalizing state others outcomes otherOutcomes with
  | nil =>
      cases others with
      | nil =>
          cases ran
          cases otherRan
          rfl
      | cons other remaining =>
          rcases run_steps_cons_some otherRan with ⟨_, _, _, _, _, rfl⟩
          cases same
  | cons tx rest ih =>
      rcases run_steps_cons_some ran with ⟨next, outcome, later, performed, continued, rfl⟩
      cases others with
      | nil => cases same
      | cons other remaining =>
          rcases run_steps_cons_some otherRan with
            ⟨otherNext, otherOutcome, otherLater, otherPerformed, otherContinued, rfl⟩
          rw [reportTexts, reports, reportTexts, reports] at same
          simp only [List.zipWith_cons_cons, List.cons.injEq] at same
          simp only [reports, List.zipWith_cons_cons, List.zip_cons_cons, List.forall₂_cons]
            at values
          have moved := same_text_same_move performed otherPerformed (idsFree tx (by simp))
            (othersFree other (by simp)) same.1 values.1
          subst moved
          exact ih continued otherContinued
            (fun later member => idsFree later (List.mem_cons_of_mem _ member))
            (fun later member => othersFree later (List.mem_cons_of_mem _ member)) same.2 values.2

section TwoRuns

variable (hashBytes : HashBytes) (mode : OverflowMode)

def guestResults (stdin : Stdin) : List (SerializableTransaction × InstructionResult) :=
  match runSteps (guestStep mode) stdin.initialState
      (stdin.transactions.map SerializableTransaction.call) with
  | none => []
  | some (_, results) => stdin.transactions.zip results

/-- Every string a run of `main` hashes: for the first root, for the entries, for
the last root and for the tree over the entry hashes. -/
def hashedStrings (stdin : Stdin) : List String :=
  match runSteps (guestStep mode) stdin.initialState
      (stdin.transactions.map SerializableTransaction.call) with
  | none => []
  | some (final, results) =>
      let texts := List.zipWith reportText stdin.transactions results
      stateRootInputs hashBytes stdin.initialState ++ texts ++ stateRootInputs hashBytes final ++
        merkleRootInputs hashBytes (texts.map (hashStr hashBytes))

variable {mode} in
theorem guest_results_eq {stdin : Stdin} {final : State} {outcomes : List Outcome}
    (ran : run mode stdin.initialState (stdin.transactions.map SerializableTransaction.call) =
      some (final, outcomes)) :
    guestResults mode stdin = stdin.transactions.zip (reports stdin.transactions outcomes) := by
  rw [guestResults, guest_run_eq, ran, Option.map_some, call_reports]

variable {mode} in
theorem hashed_strings_eq {stdin : Stdin} {final : State} {outcomes : List Outcome}
    (ran : run mode stdin.initialState (stdin.transactions.map SerializableTransaction.call) =
      some (final, outcomes)) :
    hashedStrings hashBytes mode stdin =
      stateRootInputs hashBytes stdin.initialState ++ reportTexts stdin.transactions outcomes ++
        stateRootInputs hashBytes final ++ merkleRootInputs hashBytes
          ((reportTexts stdin.transactions outcomes).map (hashStr hashBytes)) := by
  rw [hashedStrings, guest_run_eq, ran, Option.map_some, call_reports]
  rfl

end TwoRuns

/-- The commitments of two accepted runs from one map fix the final root, or
two of the strings hashed in the runs collide. -/
def DeterminePostRoot (hashBytes : HashBytes) (mode : OverflowMode) (stdin other : Stdin) : Prop :=
  ∀ committed otherCommitted,
    main hashBytes mode stdin = some committed →
    main hashBytes mode other = some otherCommitted →
    stdin.initialState = other.initialState →
    committed.batchId = otherCommitted.batchId →
    committed.stateRootPre = otherCommitted.stateRootPre →
    committed.traceHash = otherCommitted.traceHash →
    committed.totalCompute = otherCommitted.totalCompute →
    committed.txCount = otherCommitted.txCount →
    committed.stateRootPost = otherCommitted.stateRootPost ∨
      Collision (hashStr hashBytes)
        (hashedStrings hashBytes mode stdin ++ hashedStrings hashBytes mode other)

theorem commitments_determine_post_root (hashBytes : HashBytes)
    (digests : ∀ text, (hashStr hashBytes text).length = 64) (mode : OverflowMode)
    (stdin other : Stdin)
    (idsFree : ∀ tx ∈ stdin.transactions ++ other.transactions, ':' ∉ tx.txId.toList)
    (values : List.Forall₂ ValuesAgree (guestResults mode stdin) (guestResults mode other)) :
    DeterminePostRoot hashBytes mode stdin other := by
  intro committed otherCommitted accepted otherAccepted sameInitial _ _ sameHash _ sameCount
  by_cases collides : Collision (hashStr hashBytes)
      (hashedStrings hashBytes mode stdin ++ hashedStrings hashBytes mode other)
  · exact .inr collides
  left
  have safe := collision_free_of_not_collision collides
  rcases (main_commits_iff _ _ _ _).mp accepted with
    ⟨final, outcomes, total, ran, _, _, post, hash, _, count, rfl⟩
  rcases (main_commits_iff _ _ _ _).mp otherAccepted with
    ⟨otherFinal, otherOutcomes, otherTotal, otherRan, _, _, otherPost, otherHash, _, otherCount,
      rfl⟩
  rw [hashed_strings_eq hashBytes ran, hashed_strings_eq hashBytes otherRan] at safe
  rw [guest_results_eq ran, guest_results_eq otherRan] at values
  have lengths : stdin.transactions.length = other.transactions.length := by
    rw [count, otherCount]
    exact sameCount
  have outcomeLengths := run_steps_outputs_length ran
  have otherLengths := run_steps_outputs_length otherRan
  have digestsEqual : (reportTexts stdin.transactions outcomes).map (hashStr hashBytes) =
      (reportTexts other.transactions otherOutcomes).map (hashStr hashBytes) := by
    apply equal_length_leaves_bound hashBytes digests
    · simp [reportTexts, reports, outcomeLengths, otherLengths, lengths]
    · exact hashed_leaves_well_formed digests _
    · exact hashed_leaves_well_formed digests _
    · apply collision_free_mono safe
      intro input member
      rw [List.mem_append] at member
      simp only [List.mem_append]
      tauto
    · rw [hash, otherHash]
      exact sameHash
  have texts : reportTexts stdin.transactions outcomes =
      reportTexts other.transactions otherOutcomes := by
    apply preimages_of_digests _ _ safe _ _ digestsEqual
    · intro text member
      simp [member]
    · intro text member
      simp [member]
  rw [sameInitial] at ran
  have finals := same_texts_same_final ran otherRan
    (fun tx member => idsFree tx (List.mem_append_left _ member))
    (fun tx member => idsFree tx (List.mem_append_right _ member)) texts values
  change stdin.trace.stateRootPost = other.trace.stateRootPost
  rw [← post, ← otherPost, finals]

section Samples

def sampleStdin (tx : SerializableTransaction) (initial final : State) (compute : UInt64)
    (text : String) : Stdin where
  trace := {
    batchId := "batch_0"
    stateRootPre := TraceBuilding.computeStateRoot sampleDigest initial
    stateRootPost := TraceBuilding.computeStateRoot sampleDigest final
    traceHash := hashStr sampleDigest text
    totalCompute := compute
    txCount := 1 }
  transactions := [tx]
  initialState := initial

def storeStdin (sender : String) (value : UInt8) : Stdin :=
  sampleStdin ⟨"tx_0", sender, [1, 5, 0, 0, 0, 0, 0, 0, 0, value, 0, 0, 0, 0, 0, 0, 0]⟩ ∅
    ((∅ : State).insert "data_5" (UInt64.ofNat value.toNat)) 3000
    "tx:tx_0:success:true:cu:3000:reads::writes:data_5"

/-- The sender of a `SetData` is in no text; two senders still end in one root. -/
theorem two_senders_one_post_root :
    DeterminePostRoot sampleDigest .wrapping (storeStdin "alice" 1) (storeStdin "bob" 1) := by
  apply commitments_determine_post_root sampleDigest sample_digest_length
  · decide
  · apply List.Forall₂.cons _ .nil
    intro _ _ value otherValue decoded otherDecoded
    exact Option.some.inj (decoded.symm.trans otherDecoded)

/-- Pieces of an entry text that an identifier or a sender may contain. -/
def fieldText : String := ":success:true:cu:5000:reads:"

def setText : String := ",account_7:writes:"

def firstSender : String := setText ++ fieldText

def secondSender : String := fieldText ++ setText ++ setText ++ fieldText

def richState : State := ((∅ : State).insert firstSender 10).insert secondSender 10

def transferStdin (txId sender : String) : Stdin :=
  sampleStdin ⟨txId, sender, [0, 1, 0, 0, 0, 0, 0, 0, 0, 7, 0, 0, 0, 0, 0, 0, 0]⟩ richState
    ((richState.insert sender 9).insert "account_7" 1) 5000
    ("tx:" ++ txId ++ fieldText ++ sender ++ setText ++ sender ++ ",account_7")

/-- The stored value is not committed, and a colon in an identifier lets one
text describe transfers of two senders. -/
theorem commitments_leave_values_and_senders_open :
    ¬DeterminePostRoot sampleDigest .wrapping (storeStdin "alice" 1) (storeStdin "alice" 2) ∧
      ¬DeterminePostRoot sampleDigest .wrapping
        (transferStdin ("tx" ++ fieldText ++ fieldText ++ setText ++ setText) firstSender)
        (transferStdin "tx" secondSender) := by
  constructor
  · intro determines
    have initial (sender : String) (value : UInt8) :
        (storeStdin sender value).initialState = ∅ := rfl
    rcases determines (storeStdin "alice" 1).trace.claimed (storeStdin "alice" 2).trace.claimed
      (by decide +kernel) (by decide +kernel) ((initial _ _).trans (initial _ _).symm)
      (by decide +kernel)
      (by decide +kernel) (by decide +kernel) (by decide +kernel) (by decide +kernel)
      with same | collides
    · exact absurd same (by decide +kernel)
    · exact absurd collides (by decide +kernel)
  · intro determines
    have initial (txId sender : String) :
        (transferStdin txId sender).initialState = richState := rfl
    rcases determines
      (transferStdin ("tx" ++ fieldText ++ fieldText ++ setText ++ setText)
        firstSender).trace.claimed
      (transferStdin "tx" secondSender).trace.claimed (by decide +kernel) (by decide +kernel)
      ((initial _ _).trans (initial _ _).symm) (by decide +kernel) (by decide +kernel)
      (by decide +kernel)
      (by decide +kernel) (by decide +kernel) with same | collides
    · exact absurd same (by decide +kernel)
    · exact absurd collides (by decide +kernel)

end Samples

end CatalystSvm.CommitmentBinding
