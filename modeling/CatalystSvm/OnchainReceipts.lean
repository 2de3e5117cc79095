import Mathlib.Data.Set.Card
import CatalystSvm.Library.Runs
import CatalystSvm.OnchainBatcher

/-!
# The life of a receipt on the chain

Each account is followed by itself: `ReceiptStep` and `ConfigStep` list what one
instruction can do to it. The count in the config belongs to all receipts together
and is an invariant of the whole account map.
-/

namespace CatalystSvm.OnchainReceipts

open CatalystSvm.Library.Runs
open CatalystSvm.OnchainBatcher

set_option autoImplicit false

inductive ReceiptStep (addresses : ProgramAddresses) (accounts : Accounts)
    (invocation : Invocation) (address : Pubkey) : Option BatchReceipt → Prop where
  | kept : ReceiptStep addresses accounts invocation address (receiptAt accounts address)
  | created {config : GlobalConfig} {submitter : Pubkey} {batchId batchHash : Bytes32}
      {txCount : UInt32} {totalCompute : UInt64}
      (called : invocation.instruction = .submitBatch addresses.globalConfig address submitter
        batchId batchHash txCount totalCompute)
      (placed : address = addresses.batchReceipt batchId)
      (vacant : receiptAt accounts address = none)
      (configured : configAt accounts addresses.globalConfig = some config)
      (signed : submitter ∈ invocation.signers) (running : config.paused = false) :
      ReceiptStep addresses accounts invocation address
        (some (newReceipt invocation.slot submitter batchId batchHash txCount totalCompute))
  | proven {receipt : BatchReceipt} {submitter : Pubkey} {proofHash : Bytes32}
      (called : invocation.instruction = .submitProof address submitter proofHash)
      (found : receiptAt accounts address = some receipt)
      (signed : submitter ∈ invocation.signers) (unverified : receipt.verified = false) :
      ReceiptStep addresses accounts invocation address
        (some { receipt with proofHash := proofHash })
  | verified {receipt : BatchReceipt} {authority : Pubkey}
      (called : invocation.instruction = .verifyProof address authority)
      (found : receiptAt accounts address = some receipt)
      (signed : authority ∈ invocation.signers) (unverified : receipt.verified = false)
      (present : receipt.proofHash ≠ zeroBytes) :
      ReceiptStep addresses accounts invocation address
        (some { receipt with verified := true, verifySlot := invocation.slot })

inductive ConfigStep (addresses : ProgramAddresses) (accounts : Accounts)
    (invocation : Invocation) : Option GlobalConfig → Prop where
  | kept : ConfigStep addresses accounts invocation
      (configAt accounts addresses.globalConfig)
  | initialized {authority : Pubkey}
      (vacant : configAt accounts addresses.globalConfig = none) :
      ConfigStep addresses accounts invocation (some ⟨authority, false, 0, zeroBytes⟩)
  | policyUpdated {config : GlobalConfig} {policyName : Bytes32}
      (found : configAt accounts addresses.globalConfig = some config)
      (running : config.paused = false) :
      ConfigStep addresses accounts invocation (some { config with policyName := policyName })
  | counted {config : GlobalConfig}
      (found : configAt accounts addresses.globalConfig = some config)
      (running : config.paused = false) :
      ConfigStep addresses accounts invocation
        (some { config with batchCount := config.batchCount + 1 })
  | paused {config : GlobalConfig}
      (found : configAt accounts addresses.globalConfig = some config) :
      ConfigStep addresses accounts invocation (some { config with paused := true })
  | resumed {config : GlobalConfig}
      (called : invocation.instruction = .resume addresses.globalConfig config.authority)
      (found : configAt accounts addresses.globalConfig = some config)
      (signed : config.authority ∈ invocation.signers) :
      ConfigStep addresses accounts invocation (some { config with paused := false })

section OneInstruction

variable (addresses : ProgramAddresses) (accounts : Accounts) (invocation : Invocation)

theorem receipt_step (address : Pubkey) :
    ReceiptStep addresses accounts invocation address
      (receiptAt (step addresses accounts invocation) address) := by
  obtain same | executed := step_cases addresses accounts invocation
  · rw [same]
    exact .kept
  · generalize step addresses accounts invocation = next at executed ⊢
    cases executed with
    | initialized called vacant signed =>
        rw [receipt_at_store_config _ (receipt_at_of_vacant vacant)]
        exact .kept
    | policyUpdated called found signed running =>
        rw [receipt_at_store_config _ (receipt_at_of_config found)]
        exact .kept
    | batchSubmitted called found vacant signed running room =>
        rename_i config submitter batchId batchHash txCount totalCompute
        rw [receipt_at_store_config _ (receipt_at_config_after_store _ found vacant),
          receipt_at_store_receipt]
        by_cases here : address = addresses.batchReceipt batchId
        · rw [if_pos here]
          subst here
          exact .created called rfl (receipt_at_of_vacant vacant)
            (config_at_some_iff.mpr found) signed running
        · rw [if_neg here]
          exact .kept
    | proofSubmitted called found signed unverified =>
        rename_i written submitter receipt proofHash
        rw [receipt_at_store_receipt]
        by_cases here : address = written
        · rw [if_pos here]
          subst here
          exact .proven called (receipt_at_some_iff.mpr found) signed unverified
        · rw [if_neg here]
          exact .kept
    | proofVerified called found signed unverified proven =>
        rename_i written authority receipt
        rw [receipt_at_store_receipt]
        by_cases here : address = written
        · rw [if_pos here]
          subst here
          exact .verified called (receipt_at_some_iff.mpr found) signed unverified proven
        · rw [if_neg here]
          exact .kept
    | paused called found signed =>
        rw [receipt_at_store_config _ (receipt_at_of_config found)]
        exact .kept
    | resumed called found signed =>
        rw [receipt_at_store_config _ (receipt_at_of_config found)]
        exact .kept

theorem config_step :
    ConfigStep addresses accounts invocation
      (configAt (step addresses accounts invocation) addresses.globalConfig) := by
  obtain same | executed := step_cases addresses accounts invocation
  · rw [same]
    exact .kept
  · generalize step addresses accounts invocation = next at executed ⊢
    cases executed with
    | initialized called vacant signed =>
        rw [config_at_store_config, if_pos rfl]
        exact .initialized (config_at_of_vacant vacant)
    | policyUpdated called found signed running =>
        rw [config_at_store_config, if_pos rfl]
        exact .policyUpdated (config_at_some_iff.mpr found) running
    | batchSubmitted called found vacant signed running room =>
        rw [config_at_store_config, if_pos rfl]
        exact .counted (config_at_some_iff.mpr found) running
    | proofSubmitted called found signed unverified =>
        rw [config_at_store_receipt _ (config_at_of_receipt found)]
        exact .kept
    | proofVerified called found signed unverified proven =>
        rw [config_at_store_receipt _ (config_at_of_receipt found)]
        exact .kept
    | paused called found signed =>
        rw [config_at_store_config, if_pos rfl]
        exact .paused (config_at_some_iff.mpr found)
    | resumed called found signed =>
        rw [config_at_store_config, if_pos rfl]
        exact .resumed called (config_at_some_iff.mpr found) signed

end OneInstruction

/-! ## What a later state keeps of an earlier one -/

/-- Nothing disappears, and only the proof and the verdict of a receipt can still come. -/
structure Continues (addresses : ProgramAddresses) (earlier later : Accounts) : Prop where
  configKept : ∀ config, configAt earlier addresses.globalConfig = some config →
    ∃ next, configAt later addresses.globalConfig = some next ∧
      next.authority = config.authority
  receiptKept : ∀ address receipt, receiptAt earlier address = some receipt →
    ∃ next, receiptAt later address = some next ∧ next.batchId = receipt.batchId ∧
      next.batchHash = receipt.batchHash ∧ next.txCount = receipt.txCount ∧
      next.totalCompute = receipt.totalCompute ∧ next.submitter = receipt.submitter ∧
      next.submitSlot = receipt.submitSlot
  verifiedKept : ∀ address receipt, receiptAt earlier address = some receipt →
    receipt.verified = true → receiptAt later address = some receipt

namespace Continues

variable {addresses : ProgramAddresses} {earlier between later : Accounts}

theorem refl (accounts : Accounts) : Continues addresses accounts accounts where
  configKept config found := ⟨config, found, rfl⟩
  receiptKept _ receipt found := ⟨receipt, found, rfl, rfl, rfl, rfl, rfl, rfl⟩
  verifiedKept _ _ found _ := found

theorem trans (first : Continues addresses earlier between)
    (second : Continues addresses between later) : Continues addresses earlier later where
  configKept config found := by
    obtain ⟨middle, there, sameAuthority⟩ := first.configKept config found
    obtain ⟨last, here, stillSame⟩ := second.configKept middle there
    exact ⟨last, here, stillSame.trans sameAuthority⟩
  receiptKept address receipt found := by
    obtain ⟨middle, there, same⟩ := first.receiptKept address receipt found
    obtain ⟨last, here, still⟩ := second.receiptKept address middle there
    refine ⟨last, here, ?_⟩
    grind
  verifiedKept address receipt found verified :=
    second.verifiedKept address receipt (first.verifiedKept address receipt found verified)
      verified

end Continues

theorem step_continues (addresses : ProgramAddresses) (accounts : Accounts)
    (invocation : Invocation) :
    Continues addresses accounts (step addresses accounts invocation) where
  configKept config found := by
    have change := config_step addresses accounts invocation
    generalize configAt (step addresses accounts invocation) addresses.globalConfig = after
      at change
    cases change with
    | kept => exact ⟨config, found, rfl⟩
    | initialized vacant =>
        rw [vacant] at found
        cases found
    | policyUpdated there running | counted there running | paused there
    | resumed called there signed =>
        rw [there] at found
        cases found
        exact ⟨_, rfl, rfl⟩
  receiptKept address receipt found := by
    have change := receipt_step addresses accounts invocation address
    generalize receiptAt (step addresses accounts invocation) address = after at change
    cases change with
    | kept => exact ⟨receipt, found, rfl, rfl, rfl, rfl, rfl, rfl⟩
    | created called placed vacant configured signed running =>
        rw [vacant] at found
        cases found
    | proven called there signed unverified | verified called there signed unverified present =>
        rw [there] at found
        cases found
        exact ⟨_, rfl, rfl, rfl, rfl, rfl, rfl, rfl⟩
  verifiedKept address receipt found verified := by
    have change := receipt_step addresses accounts invocation address
    generalize receiptAt (step addresses accounts invocation) address = after at change
    cases change with
    | kept => exact found
    | created called placed vacant configured signed running =>
        rw [vacant] at found
        cases found
    | proven called there signed unverified | verified called there signed unverified present =>
        rw [there] at found
        cases found
        rw [unverified] at verified
        cases verified

/-! ## The slots -/

/-- No receipt was submitted after the slot. -/
def SubmittedBy (accounts : Accounts) (slot : UInt64) : Prop :=
  ∀ address receipt, receiptAt accounts address = some receipt → receipt.submitSlot ≤ slot

theorem step_submitted_by (addresses : ProgramAddresses) {accounts : Accounts}
    {invocation : Invocation} (before : SubmittedBy accounts invocation.slot) :
    SubmittedBy (step addresses accounts invocation) invocation.slot := by
  intro address receipt found
  have change := receipt_step addresses accounts invocation address
  rw [found] at change
  generalize same : some receipt = after at change
  cases change with
  | kept => exact before address receipt same.symm
  | created called placed vacant configured signed running =>
      cases same
      exact UInt64.le_refl _
  | proven called there signed unverified | verified called there signed unverified present =>
      cases same
      have bound := before address _ there
      exact bound

theorem each_step_submitted_by (addresses : ProgramAddresses) {invocations : List Invocation}
    (ordered : invocations.Pairwise (fun first second => first.slot ≤ second.slot)) :
    EachStep (step addresses) noAccounts invocations
      (fun accounts invocation => SubmittedBy accounts invocation.slot) := by
  have ahead : ∀ count later invocation, count ≤ later →
      invocations[later]? = some invocation →
      SubmittedBy (stateAfter (step addresses) noAccounts invocations count)
        invocation.slot := by
    intro count
    induction count with
    | zero =>
        intro later invocation _ _ address receipt found
        cases found
    | succ count ih =>
        intro later invocation bound taken
        obtain ⟨inside, here⟩ := List.getElem?_eq_some_iff.mp taken
        have earlier : count < invocations.length := by omega
        have called : invocations[count]? = some invocations[count] :=
          List.getElem?_eq_getElem earlier
        rw [state_after_succ called]
        have written := step_submitted_by addresses
          (ih count invocations[count] (Nat.le_refl _) called)
        have slots : invocations[count].slot ≤ invocation.slot := by
          rw [← here]
          exact List.pairwise_iff_getElem.mp ordered count later earlier inside (by omega)
        intro address receipt found
        exact UInt64.le_trans (written address receipt found) slots
  intro count invocation taken
  exact ahead count count invocation (Nat.le_refl _) taken

/-! ## The life cycle -/

def receiptAddresses (accounts : Accounts) : Set Pubkey :=
  {address | (receiptAt accounts address).isSome}

/-- No receipt before there is a config, and from then on as many as the config says. -/
def Counted (addresses : ProgramAddresses) (accounts : Accounts) : Prop :=
  match configAt accounts addresses.globalConfig with
  | none => receiptAddresses accounts = ∅
  | some config => (receiptAddresses accounts).encard = config.batchCount.toNat

structure WellKept (addresses : ProgramAddresses) (accounts : Accounts) : Prop where
  counted : Counted addresses accounts
  placed : ∀ address receipt, receiptAt accounts address = some receipt →
    address = addresses.batchReceipt receipt.batchId
  verifiedAfter : ∀ address receipt, receiptAt accounts address = some receipt →
    receipt.verified = true → receipt.proofHash ≠ zeroBytes ∧
      receipt.submitSlot ≤ receipt.verifySlot

section Counting

variable {addresses : ProgramAddresses} {accounts : Accounts} {invocation : Invocation}

theorem mem_receipt_addresses {address : Pubkey} :
    address ∈ receiptAddresses accounts ↔ (receiptAt accounts address).isSome = true :=
  Iff.rfl

theorem receipt_addresses_store_config {address : Pubkey} (data : GlobalConfig)
    (unused : receiptAt accounts address = none) :
    receiptAddresses (storeConfig accounts address data) = receiptAddresses accounts := by
  ext other
  rw [mem_receipt_addresses, mem_receipt_addresses, receipt_at_store_config data unused]

theorem receipt_addresses_store_receipt (address : Pubkey) (data : BatchReceipt) :
    receiptAddresses (storeReceipt accounts address data) =
      insert address (receiptAddresses accounts) := by
  ext other
  rw [Set.mem_insert_iff, mem_receipt_addresses, mem_receipt_addresses,
    receipt_at_store_receipt]
  by_cases same : other = address
  · simp [same]
  · simp [same]

theorem receipt_addresses_rewritten {address : Pubkey} {receipt : BatchReceipt}
    (data : BatchReceipt) (found : receiptAt accounts address = some receipt) :
    receiptAddresses (storeReceipt accounts address data) = receiptAddresses accounts := by
  rw [receipt_addresses_store_receipt]
  apply Set.insert_eq_of_mem
  rw [mem_receipt_addresses, found]
  rfl

theorem step_counted (before : Counted addresses accounts) :
    Counted addresses (step addresses accounts invocation) := by
  obtain same | executed := step_cases addresses accounts invocation
  · rw [same]
    exact before
  · generalize step addresses accounts invocation = next at executed ⊢
    unfold Counted at before ⊢
    cases executed with
    | initialized called vacant signed =>
        rw [config_at_of_vacant vacant] at before
        rw [config_at_store_config, if_pos rfl,
          receipt_addresses_store_config _ (receipt_at_of_vacant vacant), before]
        exact Set.encard_empty
    | policyUpdated called found signed running | paused called found signed
    | resumed called found signed =>
        rw [config_at_some_iff.mpr found] at before
        rw [config_at_store_config, if_pos rfl,
          receipt_addresses_store_config _ (receipt_at_of_config found)]
        exact before
    | batchSubmitted called found vacant signed running room =>
        rename_i config submitter batchId batchHash txCount totalCompute
        rw [config_at_some_iff.mpr found] at before
        have fresh : addresses.batchReceipt batchId ∉ receiptAddresses accounts := by
          rw [mem_receipt_addresses, receipt_at_of_vacant vacant]
          decide
        have increased : (config.batchCount + 1).toNat = config.batchCount.toNat + 1 := by
          rw [UInt64.toNat_add]
          exact Nat.mod_eq_of_lt room
        rw [config_at_store_config, if_pos rfl,
          receipt_addresses_store_config _ (receipt_at_config_after_store _ found vacant),
          receipt_addresses_store_receipt]
        change (insert _ (receiptAddresses accounts)).encard =
          ((config.batchCount + 1).toNat : ℕ∞)
        rw [Set.encard_insert_of_notMem fresh, before, increased, Nat.cast_add, Nat.cast_one]
    | proofSubmitted called found signed unverified
    | proofVerified called found signed unverified proven =>
        rw [config_at_store_receipt _ (config_at_of_receipt found),
          receipt_addresses_rewritten _ (receipt_at_some_iff.mpr found)]
        exact before

end Counting

section LifeCycle

variable {addresses : ProgramAddresses} {accounts : Accounts} {invocation : Invocation}

theorem step_placed
    (before : ∀ address receipt, receiptAt accounts address = some receipt →
      address = addresses.batchReceipt receipt.batchId)
    (address : Pubkey) (receipt : BatchReceipt)
    (found : receiptAt (step addresses accounts invocation) address = some receipt) :
    address = addresses.batchReceipt receipt.batchId := by
  have change := receipt_step addresses accounts invocation address
  rw [found] at change
  generalize same : some receipt = after at change
  cases change with
  | kept => exact before address receipt same.symm
  | created called placed vacant configured signed running =>
      cases same
      exact placed
  | proven called there signed unverified | verified called there signed unverified present =>
      cases same
      have kept := before address _ there
      exact kept

theorem step_verified_after (submitted : SubmittedBy accounts invocation.slot)
    (before : ∀ address receipt, receiptAt accounts address = some receipt →
      receipt.verified = true → receipt.proofHash ≠ zeroBytes ∧
        receipt.submitSlot ≤ receipt.verifySlot)
    (address : Pubkey) (receipt : BatchReceipt)
    (found : receiptAt (step addresses accounts invocation) address = some receipt)
    (verified : receipt.verified = true) :
    receipt.proofHash ≠ zeroBytes ∧ receipt.submitSlot ≤ receipt.verifySlot := by
  have change := receipt_step addresses accounts invocation address
  rw [found] at change
  generalize same : some receipt = after at change
  cases change with
  | kept => exact before address receipt same.symm verified
  | created called placed vacant configured signed running =>
      cases same
      cases verified
  | proven called there signed unverified =>
      cases same
      change _ = true at verified
      rw [unverified] at verified
      cases verified
  | verified called there signed unverified present =>
      cases same
      have bound := submitted address _ there
      exact ⟨present, bound⟩

theorem step_well_kept (kept : WellKept addresses accounts)
    (submitted : SubmittedBy accounts invocation.slot) :
    WellKept addresses (step addresses accounts invocation) where
  counted := step_counted kept.counted
  placed := step_placed kept.placed
  verifiedAfter := step_verified_after submitted kept.verifiedAfter

theorem no_accounts_well_kept (addresses : ProgramAddresses) :
    WellKept addresses noAccounts where
  counted := by
    change receiptAddresses noAccounts = ∅
    ext address
    rw [mem_receipt_addresses]
    simp [receiptAt, noAccounts]
  placed address receipt found := by cases found
  verifiedAfter address receipt found verified := by cases found

end LifeCycle

theorem run_continues (addresses : ProgramAddresses) (start : Accounts)
    (invocations : List Invocation) (earlier later : Nat) (order : earlier ≤ later) :
    Continues addresses (stateAfter (step addresses) start invocations earlier)
      (stateAfter (step addresses) start invocations later) := by
  induction later, order using Nat.le_induction with
  | base => exact Continues.refl _
  | succ later order ih =>
      cases taken : invocations[later]? with
      | none =>
          rw [state_after_end taken]
          exact ih
      | some invocation =>
          rw [state_after_succ taken]
          exact ih.trans (step_continues addresses _ invocation)

/-- Every reachable state is well kept and continues the states before it. -/
theorem receipt_life_cycle (addresses : ProgramAddresses) (invocations : List Invocation)
    (apart : Function.Injective addresses.batchReceipt)
    (ordered : invocations.Pairwise (fun first second => first.slot ≤ second.slot)) :
    Always (step addresses) noAccounts invocations (fun accounts =>
      WellKept addresses accounts ∧ ∀ batchId receipt,
        receiptAt accounts (addresses.batchReceipt batchId) = some receipt →
          receipt.batchId = batchId) ∧
      ∀ earlier later, earlier ≤ later →
        Continues addresses (stateAfter (step addresses) noAccounts invocations earlier)
          (stateAfter (step addresses) noAccounts invocations later) := by
  constructor
  · intro count
    have kept : Always (step addresses) noAccounts invocations (WellKept addresses) := by
      apply always_of_each_step (no_accounts_well_kept addresses)
      · intro accounts invocation before submitted
        exact step_well_kept before submitted
      · exact each_step_submitted_by addresses ordered
    refine ⟨kept count, ?_⟩
    intro batchId receipt found
    have placed := (kept count).placed _ receipt found
    exact (apart placed).symm
  · intro earlier later order
    exact run_continues addresses noAccounts invocations earlier later order

/-! One batch from its submission to its verification; the last instruction fails. -/

def filled (byte : UInt8) : Bytes32 := Vector.replicate 32 byte

def plainAddresses : ProgramAddresses where
  globalConfig := ⟨filled 7⟩
  batchReceipt := Pubkey.mk

def oneBatch : List Invocation :=
  [ ⟨.initializeConfig ⟨filled 7⟩ ⟨filled 1⟩ ⟨filled 1⟩, [⟨filled 1⟩], 5⟩,
    ⟨.submitBatch ⟨filled 7⟩ ⟨filled 3⟩ ⟨filled 2⟩ (filled 3) (filled 4) 10 900, [⟨filled 2⟩], 6⟩,
    ⟨.submitProof ⟨filled 3⟩ ⟨filled 2⟩ (filled 5), [⟨filled 2⟩], 8⟩,
    ⟨.verifyProof ⟨filled 3⟩ ⟨filled 1⟩, [⟨filled 1⟩], 8⟩,
    ⟨.submitProof ⟨filled 3⟩ ⟨filled 2⟩ (filled 6), [⟨filled 2⟩], 9⟩ ]

theorem one_batch_is_counted_and_kept :
    (receiptAddresses (stateAfter (step plainAddresses) noAccounts oneBatch 5)).encard = 1 ∧
      receiptAt (stateAfter (step plainAddresses) noAccounts oneBatch 5) ⟨filled 3⟩ =
        some ⟨filled 3, filled 4, filled 5, 10, 900, true, ⟨filled 2⟩, 6, 8⟩ := by
  have apart : Function.Injective plainAddresses.batchReceipt := by
    intro first second same
    cases same
    rfl
  have cycle := receipt_life_cycle plainAddresses oneBatch apart (by decide)
  have configured : configAt (stateAfter (step plainAddresses) noAccounts oneBatch 5)
      plainAddresses.globalConfig = some ⟨⟨filled 1⟩, false, 1, zeroBytes⟩ := by
    decide +kernel
  have verified : receiptAt (stateAfter (step plainAddresses) noAccounts oneBatch 4)
      ⟨filled 3⟩ = some ⟨filled 3, filled 4, filled 5, 10, 900, true, ⟨filled 2⟩, 6, 8⟩ := by
    decide +kernel
  constructor
  · have counted := (cycle.1 5).1.counted
    rw [Counted, configured] at counted
    exact counted
  · exact (cycle.2 4 5 (by decide)).verifiedKept _ _ verified rfl

end CatalystSvm.OnchainReceipts
