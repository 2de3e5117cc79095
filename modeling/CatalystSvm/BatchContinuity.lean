import CatalystSvm.Library.Segments
import CatalystSvm.ExecutionEngine
import CatalystSvm.ProverInputs

/-!
# Where a batch starts and where it ends

The executor gives every sender of a batch a million and forgets the account map
when the batch is done. The next batch starts where this one ended only if it has
the same sender and nothing happened: this module says for which streams of
transactions that is so, however they are cut into batches.
-/

namespace CatalystSvm.BatchContinuity

open CatalystSvm.CommonTypes CatalystSvm.CommonMerkle CatalystSvm.MachineArithmetic
open CatalystSvm.TraceBuilding CatalystSvm.LedgerMachine CatalystSvm.ExecutionEngine
open CatalystSvm.ProverInputs CatalystSvm.Library.StepFold CatalystSvm.Library.Segments

set_option autoImplicit false

/-! ## The account map of a single sender -/

def startAccounts (sender : String) : State := initialBalances [sender]

theorem start_get (sender key : String) :
    (startAccounts sender)[key]? = if sender = key then some 1000000 else none := by
  simp [startAccounts, initialBalances, Std.ExtTreeMap.getElem?_insertIfNew]

theorem start_balance (sender : String) : balanceOf (startAccounts sender) sender = 1000000 := by
  rw [balanceOf, start_get, if_pos rfl]
  rfl

theorem insert_start {sender key : String} {value : UInt64}
    (same : (startAccounts sender).insert key value = startAccounts sender) :
    key = sender ∧ value = 1000000 := by
  have found : (startAccounts sender)[key]? = some value := by
    rw [← same, insert_get, if_pos rfl]
  rw [start_get] at found
  split_ifs at found with own
  exact ⟨own.symm, (Option.some.inj found).symm⟩

theorem initial_balances_one_sender {sender : String} {senders : List String}
    (same : ∀ other ∈ senders, other = sender) (nonempty : senders ≠ []) :
    initialBalances senders = startAccounts sender := by
  have again : (startAccounts sender).insertIfNew sender 1000000 = startAccounts sender := by
    apply Std.ExtTreeMap.ext_getElem?
    intro other
    have member : sender ∈ startAccounts sender := by simp [startAccounts, initialBalances]
    simp [Std.ExtTreeMap.getElem?_insertIfNew, member]
  have more : ∀ rest : List String, (∀ other ∈ rest, other = sender) →
      rest.foldl (fun state other => state.insertIfNew other 1000000) (startAccounts sender) =
        startAccounts sender := by
    intro rest restSame
    induction rest with
    | nil => rfl
    | cons other rest ih =>
        rw [List.foldl_cons, restSame other (by simp), again]
        exact ih fun next member => restSame next (by simp [member])
  cases senders with
  | nil => exact absurd rfl nonempty
  | cons first rest =>
      have head := same first (by simp)
      subst head
      exact more rest fun other member => same other (by simp [member])

/-- Instructions that leave every map in which their sender holds this balance as it is. -/
def Inert (sender : String) (balance : UInt64) : Instruction → Prop
  | .transfer amount targetIdx => balance < amount ∨ accountKey targetIdx = sender
  | .setData keyIdx value => dataKey keyIdx = sender ∧ value = balance
  | .increment keyIdx delta => dataKey keyIdx = sender ∧ delta = 0
  | .noop | .empty | .truncated _ | .unknown _ => True

/-- What the sender of a single instruction holds after it. -/
def balanceLeft (sender : String) : Instruction → UInt64
  | .transfer amount targetIdx =>
      if 1000000 < amount ∨ accountKey targetIdx = sender then 1000000 else 1000000 - amount
  | .setData keyIdx value => if dataKey keyIdx = sender then value else 1000000
  | .increment keyIdx delta =>
      if dataKey keyIdx = sender then saturatingAdd 1000000 delta else 1000000
  | .noop | .empty | .truncated _ | .unknown _ => 1000000

section Single

variable {mode : OverflowMode} {sender : String} {instruction : Instruction} {next : State}
variable {outcome : Outcome}

theorem start_performs (mode : OverflowMode) (sender : String) (instruction : Instruction) :
    ∃ next outcome, perform mode (startAccounts sender) sender instruction =
      some (next, outcome) := by
  cases instruction with
  | transfer amount targetIdx =>
      rw [perform]
      by_cases short : balanceOf (startAccounts sender) sender < amount
      · rw [if_pos short]
        exact ⟨_, _, rfl⟩
      · have covered : amount ≤ balanceOf (startAccounts sender) sender := UInt64.not_lt.mp short
        rw [if_neg short, sub_u64_of_le mode _ _ covered]
        rw [start_balance] at covered ⊢
        have small : amount.toNat ≤ 1000000 := UInt64.le_iff_toNat_le.mp covered
        have target : (balanceOf ((startAccounts sender).insert sender (1000000 - amount))
            (accountKey targetIdx)).toNat ≤ 1000000 := by
          rw [balanceOf, insert_get]
          split_ifs with own
          · rw [Option.getD_some, UInt64.toNat_sub_of_le _ _ covered]
            exact Nat.sub_le _ _
          · rw [start_get, if_neg own]
            decide
        have fits : (balanceOf ((startAccounts sender).insert sender (1000000 - amount))
            (accountKey targetIdx)).toNat + amount.toNat < 2 ^ 64 := by omega
        simp only [bind, Option.bind_some, add_u64_exact mode _ _ fits]
        exact ⟨_, _, rfl⟩
  | _ => exact ⟨_, _, rfl⟩

theorem performed_leaves
    (performed : perform mode (startAccounts sender) sender instruction = some (next, outcome)) :
    next[sender]? = some (balanceLeft sender instruction) := by
  have own : (startAccounts sender)[sender]? = some 1000000 := by rw [start_get, if_pos rfl]
  cases perform_spec performed with
  | @transferred amount targetIdx credited covered added =>
      have credit := add_u64_value added
      rw [start_balance] at covered credit ⊢
      have notShort : ¬1000000 < amount := UInt64.not_lt.mpr covered
      rw [insert_get, insert_get, if_pos rfl, balanceLeft]
      simp only [notShort, false_or]
      split_ifs with self
      · rw [self, balanceOf, insert_get, if_pos rfl, Option.getD_some, UInt64.sub_add_cancel]
          at credit
        rw [credit]
      · rfl
  | overdrawn short =>
      rw [start_balance] at short
      rw [own, balanceLeft, if_pos (.inl short)]
  | stored =>
      rw [insert_get, own, balanceLeft]
      split_ifs <;> rfl
  | @incremented keyIdx delta =>
      rw [insert_get, own, balanceLeft]
      split_ifs with self
      · rw [self, start_balance]
      · rfl
  | _ => exact own

/-- Only writes under the sender's own key make it richer, and these add no account. -/
theorem richer_alone
    (performed : perform mode (startAccounts sender) sender instruction = some (next, outcome))
    (richer : 1000000 < balanceLeft sender instruction) {key : String} (other : key ≠ sender) :
    next[key]? = none := by
  have absent : (startAccounts sender)[key]? = none := by
    rw [start_get, if_neg (Ne.symm other)]
  have equal : ¬(1000000 : UInt64) < 1000000 := UInt64.lt_irrefl _
  cases perform_spec performed with
  | @transferred amount targetIdx credited covered added =>
      rw [balanceLeft] at richer
      split_ifs at richer with idle
      · exact absurd richer equal
      · rw [start_balance] at covered
        rw [UInt64.lt_iff_toNat_lt, UInt64.toNat_sub_of_le _ _ covered] at richer
        exact absurd richer (Nat.not_lt.mpr (Nat.sub_le _ _))
  | @stored keyIdx value =>
      rw [balanceLeft] at richer
      split_ifs at richer with self
      · rw [self, insert_get, if_neg (Ne.symm other), absent]
      · exact absurd richer equal
  | @incremented keyIdx delta =>
      rw [balanceLeft] at richer
      split_ifs at richer with self
      · rw [self, insert_get, if_neg (Ne.symm other), absent]
      · exact absurd richer equal
  | _ => exact absent

theorem insert_held {state : State} {key : String} {value : UInt64}
    (holds : state[key]? = some value) : state.insert key value = state := by
  apply Std.ExtTreeMap.ext_getElem?
  intro other
  rw [insert_get]
  split_ifs with own
  · rw [← own, holds]
  · rfl

theorem inert_performs (mode : OverflowMode) {state : State} {balance : UInt64}
    (holds : state[sender]? = some balance) (inert : Inert sender balance instruction) :
    ∃ outcome, perform mode state sender instruction = some (state, outcome) := by
  have held : balanceOf state sender = balance := by
    rw [balanceOf, holds]
    rfl
  cases instruction with
  | transfer amount targetIdx =>
      rw [perform, held]
      by_cases short : balance < amount
      · rw [if_pos short]
        exact ⟨_, rfl⟩
      · have covered : amount ≤ balance := UInt64.not_lt.mp short
        have own : accountKey targetIdx = sender := inert.resolve_left short
        have debited : balanceOf (state.insert sender (balance - amount)) sender =
            balance - amount := by
          rw [balanceOf, insert_get, if_pos rfl]
          rfl
        have fits : (balance - amount).toNat + amount.toNat < 2 ^ 64 := by
          rw [UInt64.toNat_sub_of_le _ _ covered,
            Nat.sub_add_cancel (UInt64.le_iff_toNat_le.mp covered)]
          exact balance.toNat_lt
        rw [if_neg short, sub_u64_of_le mode _ _ covered, own]
        simp only [bind, Option.bind_some, debited, add_u64_exact mode _ _ fits,
          UInt64.sub_add_cancel]
        have restored : (state.insert sender (balance - amount)).insert sender balance = state := by
          apply Std.ExtTreeMap.ext_getElem?
          intro other
          rw [insert_get, insert_get]
          split_ifs with self
          · rw [← self, holds]
          · rfl
        rw [restored]
        exact ⟨_, rfl⟩
  | setData keyIdx value =>
      obtain ⟨own, same⟩ := inert
      rw [perform, own, same, insert_held holds]
      exact ⟨_, rfl⟩
  | increment keyIdx delta =>
      obtain ⟨own, zero⟩ := inert
      have kept : saturatingAdd balance 0 = balance := by
        have room : balance.toNat + (0 : UInt64).toNat < 2 ^ 64 := balance.toNat_lt
        rw [saturatingAdd, if_pos room, UInt64.add_zero]
      rw [perform, own, zero, held, kept, insert_held holds]
      exact ⟨_, rfl⟩
  | _ => exact ⟨_, rfl⟩

/-- An inert instruction that another balance wakes moves the map for good: instructions
that are inert at both balances leave what it made. -/
theorem woken_performs (mode : OverflowMode) {state : State} {balance : UInt64}
    (holds : state[sender]? = some balance)
    (alone : 1000000 < balance → ∀ key, key ≠ sender → state[key]? = none)
    (inert : Inert sender 1000000 instruction) (woken : ¬Inert sender balance instruction) :
    ∃ moved outcome left, perform mode state sender instruction = some (moved, outcome) ∧
      moved ≠ state ∧ moved[sender]? = some left ∧
      ∀ other, Inert sender 1000000 other → Inert sender balance other →
        Inert sender left other := by
  cases instruction with
  | transfer amount targetIdx =>
      obtain ⟨notShort, foreign⟩ := not_or.mp woken
      have covered : amount ≤ balance := UInt64.not_lt.mp notShort
      have large : 1000000 < amount := inert.resolve_right foreign
      have richer : 1000000 < balance := UInt64.lt_of_lt_of_le large covered
      have absent := alone richer (accountKey targetIdx) foreign
      have held : balanceOf state sender = balance := by
        rw [balanceOf, holds]
        rfl
      have nothing : balanceOf (state.insert sender (balance - amount)) (accountKey targetIdx) =
          0 := by
        rw [balanceOf, insert_get, if_neg (Ne.symm foreign), absent]
        rfl
      have fits : (0 : UInt64).toNat + amount.toNat < 2 ^ 64 := by
        rw [UInt64.toNat_zero, Nat.zero_add]
        exact amount.toNat_lt
      refine ⟨(state.insert sender (balance - amount)).insert (accountKey targetIdx) amount,
        .applied [sender, accountKey targetIdx] [sender, accountKey targetIdx] 5000,
        balance - amount, ?_, ?_, ?_, ?_⟩
      · rw [perform, held, if_neg notShort, sub_u64_of_le mode _ _ covered]
        simp only [bind, Option.bind_some, nothing, add_u64_exact mode _ _ fits, UInt64.zero_add]
      · intro same
        have found := congrArg (fun map : State => map[accountKey targetIdx]?) same
        simp only [insert_get, if_true, absent] at found
        cases found
      · rw [insert_get, if_neg foreign, insert_get, if_pos rfl]
      · intro other atStart later
        cases other with
        | transfer next nextIdx =>
            refine later.imp_left fun short => ?_
            exact UInt64.lt_of_le_of_lt (UInt64.sub_le covered) short
        | setData keyIdx value =>
            rw [← atStart.2, later.2] at richer
            exact absurd richer (UInt64.lt_irrefl _)
        | increment keyIdx delta => exact atStart
        | _ => trivial
  | setData keyIdx value =>
      obtain ⟨own, million⟩ := inert
      have differs : value ≠ balance := fun same => woken ⟨own, same⟩
      refine ⟨state.insert sender value, .applied [] [dataKey keyIdx] 3000, 1000000, ?_, ?_, ?_,
        fun other atStart _ => atStart⟩
      · rw [perform, own]
      · intro same
        have found : (state.insert sender value)[sender]? = some balance := by rw [same, holds]
        rw [insert_get, if_pos rfl, Option.some.injEq] at found
        exact differs found
      · rw [insert_get, if_pos rfl, million]
  | increment keyIdx delta => exact absurd inert woken
  | _ => exact absurd trivial woken

theorem performed_start_iff
    (performed : perform mode (startAccounts sender) sender instruction = some (next, outcome)) :
    next = startAccounts sender ↔ Inert sender 1000000 instruction := by
  have holds : (startAccounts sender)[sender]? = some 1000000 := by rw [start_get, if_pos rfl]
  constructor
  · intro same
    cases perform_spec performed with
    | @transferred amount targetIdx credited covered added =>
        have found := congrArg (fun state : State => state[accountKey targetIdx]?) same
        simp only [insert_get, if_true, start_get] at found
        split_ifs at found with own
        exact .inr own.symm
    | overdrawn short =>
        rw [start_balance] at short
        exact .inl short
    | stored => exact insert_start same
    | @incremented keyIdx delta =>
        obtain ⟨own, kept⟩ := insert_start same
        rw [own, start_balance] at kept
        exact ⟨own, (saturating_add_self_iff (by decide)).mp kept⟩
    | _ => trivial
  · intro inert
    obtain ⟨again, unchanged⟩ := inert_performs mode holds inert
    cases performed.symm.trans unchanged
    rfl

end Single

/-! ## Streams and the ways to cut them -/

/-- The fast lane of a segment first, each lane in order of arrival. -/
def lanes (fast : Transaction → Bool) (segment : List Transaction) : List Transaction :=
  segment.filter fast ++ segment.filter fun tx => !fast tx

/-- These batches can be made of the stream. -/
def Cutting (fast : Transaction → Bool) (stream : List Transaction)
    (batches : List (List Transaction)) : Prop :=
  ∃ segments : List (List Transaction), stream = segments.flatten ∧
    (∀ segment ∈ segments, segment ≠ []) ∧ batches = segments.map (lanes fast)

def initialAccounts (batch : List Transaction) : State :=
  initialBalances (batch.map Transaction.sender)

def finalAccounts (mode : OverflowMode) (batch : List Transaction) : Option State :=
  (run mode (initialAccounts batch) (batch.map transactionCall)).map Prod.fst

def Linked (mode : OverflowMode) (batches : List (List Transaction)) : Prop :=
  ∀ index left right, batches[index]? = some left → batches[index + 1]? = some right →
    ∀ final, finalAccounts mode left = some final → final = initialAccounts right

def EndsWith (mode : OverflowMode) (batches : List (List Transaction)) (accounts : State) : Prop :=
  ∃ last, batches.getLast? = some last ∧ finalAccounts mode last = some accounts

/-- One sender, and nothing happens before the last transaction of the stream. In the
fast lane that one overtakes others, which must be inert at the balance that it leaves. -/
structure Steady (fast : Transaction → Bool) (stream : List Transaction) : Prop where
  sender : ∃ sender, ∀ tx ∈ stream, tx.sender = sender
  inert : ∀ tx ∈ stream.dropLast, Inert tx.sender 1000000 (decode tx.instructionData)
  overtaken : ∀ earlier last, stream = earlier ++ [last] → fast last = true →
    ∀ tx ∈ earlier, fast tx = false →
      Inert last.sender (balanceLeft last.sender (decode last.instructionData))
        (decode tx.instructionData)

theorem mem_lanes_iff {fast : Transaction → Bool} {segment : List Transaction}
    {tx : Transaction} : tx ∈ lanes fast segment ↔ tx ∈ segment := by
  simp only [lanes, List.mem_append, List.mem_filter, Bool.not_eq_true']
  cases fast tx <;> simp

theorem lanes_ne_nil {fast : Transaction → Bool} {segment : List Transaction}
    (filled : segment ≠ []) : lanes fast segment ≠ [] := by
  intro empty
  rcases List.exists_mem_of_ne_nil segment filled with ⟨tx, member⟩
  have listed : tx ∈ lanes fast segment := mem_lanes_iff.mpr member
  rw [empty] at listed
  cases listed

theorem lanes_append_last (fast : Transaction → Bool) (before : List Transaction)
    (last : Transaction) :
    lanes fast (before ++ [last]) = before.filter fast ++ if fast last then
      last :: before.filter fun tx => !fast tx
    else (before.filter fun tx => !fast tx) ++ [last] := by
  cases lane : fast last <;> simp [lanes, List.filter_append, lane]

theorem executed_roots {hashBytes : HashBytes} {mode : OverflowMode} {maxCuPerTx : UInt64}
    {batch : Batch} {transactions : List Transaction} {trace : ExecutionTrace}
    (executed : (FullExecutor.new maxCuPerTx).executeWithTransactions hashBytes mode batch
      transactions = some trace) :
    trace.stateRootPre = computeStateRoot hashBytes (initialAccounts transactions) ∧
      ∃ final, finalAccounts mode transactions = some final ∧
        trace.stateRootPost = computeStateRoot hashBytes final := by
  rcases execute_submissions_some hashBytes _ rfl mode batch _ trace executed with
    ⟨final, outcomes, ran, _, _, _, pre, post, _⟩
  rw [submitted_calls, submitted_senders] at ran
  rw [submitted_senders] at pre
  refine ⟨pre, final, ?_, post⟩
  rw [finalAccounts, initialAccounts, ran]
  rfl

section Streams

variable {mode : OverflowMode} {fast : Transaction → Bool} {sender : String}

theorem initial_accounts_one_sender {batch : List Transaction} (nonempty : batch ≠ [])
    (same : ∀ tx ∈ batch, tx.sender = sender) : initialAccounts batch = startAccounts sender := by
  apply initial_balances_one_sender
  · intro other member
    rcases List.mem_map.mp member with ⟨tx, listed, rfl⟩
    exact same tx listed
  · simpa using nonempty

theorem inert_run (mode : OverflowMode) {state : State} {balance : UInt64}
    (holds : state[sender]? = some balance) {batch : List Transaction}
    (same : ∀ tx ∈ batch, tx.sender = sender)
    (inert : ∀ tx ∈ batch, Inert sender balance (decode tx.instructionData)) :
    ∃ outcomes, run mode state (batch.map transactionCall) = some (state, outcomes) := by
  induction batch with
  | nil => exact ⟨[], rfl⟩
  | cons tx rest ih =>
      obtain ⟨outcome, performed⟩ := inert_performs mode holds (inert tx (by simp))
      rcases ih (fun other member => same other (by simp [member]))
        (fun other member => inert other (by simp [member])) with ⟨outcomes, ran⟩
      refine ⟨outcome :: outcomes, run_steps_cons_of ?_ ran⟩
      rw [performCall]
      change perform mode state tx.sender _ = _
      rw [same tx (by simp)]
      exact performed

theorem start_run (mode : OverflowMode) {batch : List Transaction}
    (same : ∀ tx ∈ batch, tx.sender = sender)
    (inert : ∀ tx ∈ batch, Inert tx.sender 1000000 (decode tx.instructionData)) :
    ∃ outcomes, run mode (startAccounts sender) (batch.map transactionCall) =
      some (startAccounts sender, outcomes) := by
  have holds : (startAccounts sender)[sender]? = some 1000000 := by rw [start_get, if_pos rfl]
  apply inert_run mode holds same
  intro tx member
  rw [← same tx member]
  exact inert tx member

theorem final_accounts_of_run {batch : List Transaction} (nonempty : batch ≠ [])
    (same : ∀ tx ∈ batch, tx.sender = sender) {final : State} {outcomes : List Outcome}
    (ran : run mode (startAccounts sender) (batch.map transactionCall) = some (final, outcomes)) :
    finalAccounts mode batch = some final := by
  rw [finalAccounts, initial_accounts_one_sender nonempty same, ran]
  rfl

theorem linked_of_steady {stream rest : List Transaction} {batches : List (List Transaction)}
    (steady : Steady fast (stream ++ rest)) (cut : Cutting fast stream batches) :
    Linked mode batches := by
  rcases steady.sender with ⟨sender, same⟩
  rcases cut with ⟨segments, rfl, filled, rfl⟩
  intro index left right leftFound rightFound final ended
  rw [List.getElem?_map, Option.map_eq_some_iff] at leftFound rightFound
  rcases leftFound with ⟨segment, found, rfl⟩
  rcases rightFound with ⟨later, next, rfl⟩
  have member : segment ∈ segments := List.mem_of_getElem? found
  have laterMember : later ∈ segments := List.mem_of_getElem? next
  have senders : ∀ listed ∈ segments, ∀ tx ∈ lanes fast listed, tx.sender = sender := by
    intro listed inside tx inLanes
    apply same tx
    exact List.mem_append_left _ (List.mem_flatten.mpr ⟨listed, inside, mem_lanes_iff.mp inLanes⟩)
  have inert : ∀ tx ∈ lanes fast segment, Inert tx.sender 1000000 (decode tx.instructionData) := by
    intro tx inLanes
    exact steady.inert tx (earlier_segment_subset filled found next rest (mem_lanes_iff.mp inLanes))
  rcases start_run mode (senders segment member) inert with ⟨outcomes, ran⟩
  have kept := final_accounts_of_run (lanes_ne_nil (filled segment member))
    (senders segment member) ran
  rw [initial_accounts_one_sender (lanes_ne_nil (filled later laterMember))
    (senders later laterMember)]
  exact Option.some.inj (ended.symm.trans kept)

/-- A batch of inert transactions around its last one. -/
theorem run_to_last (before after : List Transaction) {last : Transaction}
    (same : ∀ tx ∈ before ++ last :: after, tx.sender = sender)
    (inert : ∀ tx ∈ before, Inert tx.sender 1000000 (decode tx.instructionData)) {made : State}
    {outcome : Outcome}
    (performed : performCall mode (startAccounts sender) (transactionCall last) =
      some (made, outcome)) :
    finalAccounts mode (before ++ last :: after) =
      (run mode made (after.map transactionCall)).map Prod.fst := by
  rcases start_run mode (fun tx member => same tx (by simp [member])) inert with ⟨outcomes, ran⟩
  have nonempty : before ++ last :: after ≠ [] := by simp
  rw [finalAccounts, initial_accounts_one_sender nonempty same, List.map_append, run,
    run_steps_append]
  change Option.map Prod.fst ((run mode _ _).bind _) = _
  rw [ran, Option.bind_some, List.map_cons, runSteps, performed]
  simp only [bind, Option.bind_some]
  cases runSteps (performCall mode) made (after.map transactionCall) <;> rfl

theorem last_batch_final {before : List Transaction} {last : Transaction}
    (same : ∀ tx ∈ before ++ [last], tx.sender = sender)
    (inert : ∀ tx ∈ before, Inert tx.sender 1000000 (decode tx.instructionData)) {made : State}
    {outcome : Outcome}
    (performed : performCall mode (startAccounts sender) (transactionCall last) =
      some (made, outcome)) :
    finalAccounts mode (lanes fast (before ++ [last])) =
      if fast last then
        (run mode made ((before.filter fun tx => !fast tx).map transactionCall)).map Prod.fst
      else some made := by
  have others : ∀ tx ∈ lanes fast (before ++ [last]), tx.sender = sender :=
    fun tx member => same tx (mem_lanes_iff.mp member)
  rw [lanes_append_last] at others ⊢
  cases lane : fast last with
  | true =>
      simp only [lane, if_true] at others ⊢
      exact run_to_last _ _ others (fun tx member => inert tx (List.mem_of_mem_filter member)) performed
  | false =>
      simp only [lane, Bool.false_eq_true, if_false] at others ⊢
      rw [← List.append_assoc] at others ⊢
      have waits : ∀ tx ∈ lanes fast before, Inert tx.sender 1000000 (decode tx.instructionData) :=
        fun tx member => inert tx (mem_lanes_iff.mp member)
      exact run_to_last _ [] others waits performed

theorem ends_of_steady {stream : List Transaction} {batches : List (List Transaction)}
    (steady : Steady fast stream) (cut : Cutting fast stream batches) {accounts : State}
    (ends : EndsWith mode batches accounts) :
    ∃ last outcome, stream.getLast? = some last ∧
      performCall mode (startAccounts last.sender) (transactionCall last) =
        some (accounts, outcome) := by
  rcases steady.sender with ⟨sender, same⟩
  rcases cut with ⟨segments, cutAs, filled, rfl⟩
  rcases ends with ⟨batch, atEnd, ended⟩
  rw [List.getLast?_map, Option.map_eq_some_iff] at atEnd
  rcases atEnd with ⟨segment, lastSegment, rfl⟩
  rcases List.getLast?_eq_some_iff.mp lastSegment with ⟨others, rfl⟩
  rcases List.eq_nil_or_concat' segment with empty | ⟨before, last, rfl⟩
  · exact absurd empty (filled segment (by simp))
  have streamEq : stream = (others.flatten ++ before) ++ [last] := by
    rw [cutAs, List.flatten_append, List.flatten_singleton, List.append_assoc]
  have lastSender : last.sender = sender := same last (by simp [streamEq])
  have senders : ∀ tx ∈ before ++ [last], tx.sender = sender := by
    intro tx member
    apply same tx
    rw [streamEq, List.append_assoc]
    exact List.mem_append_right _ member
  have inert : ∀ tx ∈ before, Inert tx.sender 1000000 (decode tx.instructionData) := by
    intro tx member
    apply steady.inert tx
    rw [streamEq, List.dropLast_concat]
    exact List.mem_append_right _ member
  rcases start_performs mode last.sender (decode last.instructionData) with
    ⟨made, outcome, performed⟩
  have calls : performCall mode (startAccounts last.sender) (transactionCall last) =
      some (made, outcome) := performed
  refine ⟨last, outcome, by simp [streamEq], ?_⟩
  rw [calls]
  rw [lastSender] at calls
  rw [last_batch_final senders inert calls] at ended
  cases lane : fast last with
  | false =>
      simp only [lane, Bool.false_eq_true, if_false, Option.some.injEq] at ended
      rw [ended]
  | true =>
      simp only [lane, if_true, Option.map_eq_some_iff] at ended
      rcases ended with ⟨⟨after, outcomes⟩, ran, rfl⟩
      have waits : ∀ tx ∈ before.filter (fun tx => !fast tx), Inert last.sender
          (balanceLeft last.sender (decode last.instructionData)) (decode tx.instructionData) := by
        intro tx member
        rw [List.mem_filter, Bool.not_eq_true'] at member
        exact steady.overtaken (others.flatten ++ before) last streamEq lane tx
          (List.mem_append_right _ member.1) member.2
      have own : ∀ tx ∈ before.filter (fun tx => !fast tx), tx.sender = last.sender := by
        intro tx member
        rw [lastSender]
        exact senders tx (List.mem_append_left _ (List.mem_of_mem_filter member))
      obtain ⟨kept, again⟩ := inert_run mode (performed_leaves performed) own waits
      cases ran.symm.trans again
      rfl

/-! ## No other stream will do -/

theorem lanes_singleton (fast : Transaction → Bool) (tx : Transaction) : lanes fast [tx] = [tx] := by
  cases lane : fast tx <;> simp [lanes, lane]

theorem late_cutting (fast : Transaction → Bool) (first rest : List Transaction)
    (nonempty : rest ≠ []) :
    Cutting fast (first ++ rest) ((first.map fun tx => [tx]) ++ [lanes fast rest]) := by
  refine ⟨(first.map fun tx => [tx]) ++ [rest], ?_, ?_, ?_⟩
  · rw [List.flatten_append, List.flatten_singleton, ← List.flatMap_def, List.flatMap_singleton']
  · intro segment member
    rcases List.mem_append.mp member with single | last
    · rcases List.mem_map.mp single with ⟨tx, _, rfl⟩
      simp
    · rw [List.mem_singleton.mp last]
      exact nonempty
  · rw [List.map_append, List.map_map, List.map_singleton]
    congr 1
    apply List.map_congr_left
    intro tx _
    exact (lanes_singleton fast tx).symm

theorem singles_cutting (fast : Transaction → Bool) (stream : List Transaction) :
    Cutting fast stream (stream.map fun tx => [tx]) := by
  rcases List.eq_nil_or_concat' stream with empty | ⟨earlier, last, rfl⟩
  · rw [empty]
    exact ⟨[], rfl, by simp, rfl⟩
  · have late := late_cutting fast earlier [last] (List.cons_ne_nil last [])
    rw [lanes_singleton] at late
    rw [List.map_append]
    exact late

theorem single_final (tx : Transaction) {next : State} {outcome : Outcome}
    (performed : performCall mode (startAccounts tx.sender) (transactionCall tx) =
      some (next, outcome)) : finalAccounts mode [tx] = some next := by
  have same : ∀ other ∈ [] ++ [tx], other.sender = tx.sender := by simp
  exact run_to_last [] [] same (by simp) performed

theorem linked_singles {left right : Transaction}
    (linked : ∀ final, finalAccounts mode [left] = some final → final = initialAccounts [right]) :
    left.sender = right.sender ∧ Inert left.sender 1000000 (decode left.instructionData) := by
  rcases start_performs mode left.sender (decode left.instructionData) with
    ⟨next, outcome, performed⟩
  have moved : next = startAccounts right.sender := linked next (single_final left performed)
  have found := performed_leaves performed
  rw [moved, start_get] at found
  split_ifs at found with own
  refine ⟨own.symm, ?_⟩
  rw [own] at moved
  exact (performed_start_iff performed).mp moved

theorem woken_run (mode : OverflowMode) {state : State} {balance : UInt64}
    (holds : state[sender]? = some balance)
    (alone : 1000000 < balance → ∀ key, key ≠ sender → state[key]? = none) {tx : Transaction}
    {rest : List Transaction} (same : ∀ other ∈ tx :: rest, other.sender = sender)
    (atStart : ∀ other ∈ tx :: rest, Inert sender 1000000 (decode other.instructionData))
    (woken : ¬Inert sender balance (decode tx.instructionData))
    (waits : ∀ other ∈ rest, Inert sender balance (decode other.instructionData)) :
    ∃ moved outcomes, run mode state ((tx :: rest).map transactionCall) = some (moved, outcomes) ∧
      moved ≠ state := by
  obtain ⟨moved, outcome, left, moves, differs, leaves, stays⟩ :=
    woken_performs mode holds alone (atStart tx (by simp)) woken
  have still : ∀ other ∈ rest, Inert sender left (decode other.instructionData) := by
    intro other member
    exact stays _ (atStart other (List.mem_cons_of_mem _ member)) (waits other member)
  obtain ⟨outcomes, ran⟩ := inert_run mode leaves
    (fun other member => same other (List.mem_cons_of_mem _ member)) still
  refine ⟨moved, outcome :: outcomes, run_steps_cons_of ?_ ran, differs⟩
  change perform mode state tx.sender _ = _
  rw [same tx (by simp)]
  exact moves

theorem late_cutting_ends {rest : List Transaction} {last : Transaction}
    (lane : fast last = true) (senders : ∀ tx ∈ rest ++ [last], tx.sender = last.sender)
    (inert : ∀ tx ∈ rest, Inert tx.sender 1000000 (decode tx.instructionData))
    {made moved : State} {outcome : Outcome} {outcomes : List Outcome}
    (performed : performCall mode (startAccounts last.sender) (transactionCall last) =
      some (made, outcome))
    (ran : run mode made ((rest.filter fun tx => !fast tx).map transactionCall) =
      some (moved, outcomes)) (before : List Transaction) :
    EndsWith mode ((before.map fun tx => [tx]) ++ [lanes fast (rest ++ [last])]) moved := by
  refine ⟨_, List.getLast?_concat, ?_⟩
  rw [last_batch_final senders inert performed, lane, if_pos rfl, ran]
  rfl

/-- Cut just before a transaction that the last one wakes, the stream ends elsewhere than
cut into single transactions. -/
theorem overtaken_of_cuttings {earlier : List Transaction} {last : Transaction}
    (lane : fast last = true) (senders : ∀ tx ∈ earlier ++ [last], tx.sender = last.sender)
    (inert : ∀ tx ∈ earlier, Inert tx.sender 1000000 (decode tx.instructionData))
    (independent : ∀ batches others accounts otherAccounts,
      Cutting fast (earlier ++ [last]) batches → Cutting fast (earlier ++ [last]) others →
      EndsWith mode batches accounts → EndsWith mode others otherAccounts →
      accounts = otherAccounts) (before rest : List Transaction) (cut : earlier = before ++ rest) :
    ∀ tx ∈ rest, fast tx = false →
      Inert last.sender (balanceLeft last.sender (decode last.instructionData))
        (decode tx.instructionData) := by
  -- From the back: what comes later in the stream is known to be inert.
  induction rest generalizing before with
  | nil =>
      intro tx member
      cases member
  | cons first rest ih =>
      have later := ih (before ++ [first]) (by rw [cut, List.append_assoc]; rfl)
      intro tx member slow
      rcases List.mem_cons.mp member with same | inRest
      · subst same
        by_contra woken
        obtain ⟨made, outcome, performed⟩ :=
          start_performs mode last.sender (decode last.instructionData)
        have overtaken : (tx :: rest).filter (fun other => !fast other) =
            tx :: rest.filter fun other => !fast other := by
          apply List.filter_cons_of_pos
          rw [slow]
          rfl
        have listed : ∀ other ∈ tx :: rest.filter (fun other => !fast other),
            other ∈ earlier := by
          intro other member
          rw [← overtaken] at member
          rw [cut]
          exact List.mem_append_right _ (List.mem_of_mem_filter member)
        have own : ∀ other ∈ tx :: rest.filter (fun other => !fast other),
            other.sender = last.sender :=
          fun other member => senders other (List.mem_append_left _ (listed other member))
        have atStart : ∀ other ∈ tx :: rest.filter (fun other => !fast other),
            Inert last.sender 1000000 (decode other.instructionData) := by
          intro other member
          rw [← own other member]
          exact inert other (listed other member)
        have waits : ∀ other ∈ rest.filter (fun other => !fast other),
            Inert last.sender (balanceLeft last.sender (decode last.instructionData))
              (decode other.instructionData) := by
          intro other member
          rw [List.mem_filter, Bool.not_eq_true'] at member
          exact later other member.1 member.2
        obtain ⟨moved, outcomes, ran, differs⟩ := woken_run mode (performed_leaves performed)
          (fun richer _ foreign => richer_alone performed richer foreign) own atStart woken waits
        have late := late_cutting fast before ((tx :: rest) ++ [last]) (by simp)
        rw [← List.append_assoc, ← cut] at late
        have inside : ∀ other ∈ tx :: rest, other ∈ earlier := by
          intro other member
          rw [cut]
          exact List.mem_append_right _ member
        have lateSenders : ∀ other ∈ (tx :: rest) ++ [last], other.sender = last.sender := by
          intro other member
          apply senders other
          rw [cut, List.append_assoc]
          exact List.mem_append_right _ member
        rw [← overtaken] at ran
        have lateEnd := late_cutting_ends lane lateSenders
          (fun other member => inert other (inside other member)) performed ran before
        have singleEnd : EndsWith mode ((earlier ++ [last]).map fun tx => [tx]) made :=
          ⟨[last], by simp, single_final last performed⟩
        exact differs (independent _ _ _ _ late (singles_cutting fast _) lateEnd singleEnd)
      · exact later tx inRest slow

theorem one_sender_of_neighbours {stream : List Transaction}
    (neighbours : ∀ (index : Nat) (left right : Transaction), stream[index]? = some left →
      stream[index + 1]? = some right → left.sender = right.sender) :
    ∃ sender, ∀ tx ∈ stream, tx.sender = sender := by
  induction stream with
  | nil => exact ⟨"", by simp⟩
  | cons tx rest ih =>
      rcases ih fun index left right leftFound rightFound =>
        neighbours (index + 1) left right leftFound rightFound with ⟨sender, same⟩
      cases rest with
      | nil => exact ⟨tx.sender, by simp⟩
      | cons next rest =>
          refine ⟨sender, ?_⟩
          intro other member
          rcases List.mem_cons.mp member with rfl | later
          · rw [neighbours 0 other next rfl rfl]
            exact same next (by simp)
          · exact same other later

theorem steady_of_cuttings {stream : List Transaction}
    (linked : ∀ batches, Cutting fast stream batches → Linked mode batches)
    (independent : ∀ batches others accounts otherAccounts, Cutting fast stream batches →
      Cutting fast stream others → EndsWith mode batches accounts →
      EndsWith mode others otherAccounts → accounts = otherAccounts) :
    Steady fast stream := by
  have neighbours : ∀ (index : Nat) (left right : Transaction), stream[index]? = some left →
      stream[index + 1]? = some right →
      left.sender = right.sender ∧ Inert left.sender 1000000 (decode left.instructionData) := by
    intro index left right leftFound rightFound
    apply linked_singles
    apply linked _ (singles_cutting fast stream) index
    · rw [List.getElem?_map, leftFound]
      rfl
    · rw [List.getElem?_map, rightFound]
      rfl
  have sender := one_sender_of_neighbours fun index left right leftFound rightFound =>
    (neighbours index left right leftFound rightFound).1
  have inert : ∀ tx ∈ stream.dropLast, Inert tx.sender 1000000 (decode tx.instructionData) := by
    intro tx member
    rcases List.mem_iff_getElem?.mp member with ⟨index, found⟩
    rw [List.getElem?_dropLast] at found
    split_ifs at found with within
    have bound : index + 1 < stream.length := by omega
    exact (neighbours index tx stream[index + 1] found (List.getElem?_eq_getElem bound)).2
  refine ⟨sender, inert, ?_⟩
  intro earlier last streamEq lane
  rcases sender with ⟨sender, same⟩
  rw [streamEq] at same inert independent
  rw [List.dropLast_concat] at inert
  have senders : ∀ tx ∈ earlier ++ [last], tx.sender = last.sender := by
    intro tx member
    rw [same tx member, same last (by simp)]
  exact overtaken_of_cuttings lane senders inert independent [] earlier rfl

theorem steady_iff (mode : OverflowMode) (fast : Transaction → Bool)
    (stream : List Transaction) :
    Steady fast stream ↔
      (∀ batches, Cutting fast stream batches → Linked mode batches) ∧
      ∀ batches others accounts otherAccounts, Cutting fast stream batches →
        Cutting fast stream others → EndsWith mode batches accounts →
        EndsWith mode others otherAccounts → accounts = otherAccounts := by
  constructor
  · intro steady
    constructor
    · intro batches cut
      have whole : Steady fast (stream ++ []) := by rwa [List.append_nil]
      exact linked_of_steady whole cut
    · intro batches others accounts otherAccounts cut otherCut ends otherEnds
      rcases ends_of_steady steady cut ends with ⟨last, outcome, atEnd, performed⟩
      rcases ends_of_steady steady otherCut otherEnds with ⟨same, other, otherEnd, otherPerformed⟩
      cases atEnd.symm.trans otherEnd
      cases performed.symm.trans otherPerformed
      rfl
  · intro both
    exact steady_of_cuttings both.1 both.2

end Streams

end CatalystSvm.BatchContinuity
