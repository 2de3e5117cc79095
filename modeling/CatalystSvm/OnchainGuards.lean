import CatalystSvm.OnchainReceipts

/-!
# Who may change what on the chain

`submit_proof` and `verify_proof` take the receipt alone: neither compares its signer
with the receipt or the config, and neither sees the pause flag. Both gaps are the same
two ways of changing a receipt, so they are named once.
-/

namespace CatalystSvm.OnchainGuards

open CatalystSvm.Library.Runs
open CatalystSvm.OnchainBatcher
open CatalystSvm.OnchainReceipts

set_option autoImplicit false

section Changes

variable (accounts : Accounts) (invocation : Invocation) (address : Pubkey)
  (receipt : BatchReceipt)

def ReplacesProof : Prop :=
  receiptAt accounts address = some receipt ∧ receipt.verified = false ∧
    ∃ submitter proofHash, invocation.instruction = .submitProof address submitter proofHash ∧
      submitter ∈ invocation.signers ∧ proofHash ≠ receipt.proofHash

def VerifiesReceipt : Prop :=
  receiptAt accounts address = some receipt ∧ receipt.verified = false ∧
    receipt.proofHash ≠ zeroBytes ∧
    ∃ authority, invocation.instruction = .verifyProof address authority ∧
      authority ∈ invocation.signers

end Changes

section OneInstruction

variable {addresses : ProgramAddresses} {accounts : Accounts} {invocation : Invocation}
  {address : Pubkey} {receipt next : BatchReceipt}

theorem step_replaces_proof (addresses : ProgramAddresses)
    (replaces : ReplacesProof accounts invocation address receipt) :
    ∃ proofHash, proofHash ≠ receipt.proofHash ∧
      receiptAt (step addresses accounts invocation) address =
        some { receipt with proofHash := proofHash } := by
  obtain ⟨found, unverified, submitter, proofHash, called, signed, different⟩ := replaces
  have executed : Executed addresses accounts invocation
      (storeReceipt accounts address { receipt with proofHash := proofHash }) :=
    .proofSubmitted called (receipt_at_some_iff.mp found) signed unverified
  refine ⟨proofHash, different, ?_⟩
  rw [step_of_executed executed, receipt_at_store_receipt, if_pos rfl]

theorem step_verifies_receipt (addresses : ProgramAddresses)
    (verifies : VerifiesReceipt accounts invocation address receipt) :
    receiptAt (step addresses accounts invocation) address =
      some { receipt with verified := true, verifySlot := invocation.slot } := by
  obtain ⟨found, unverified, present, authority, called, signed⟩ := verifies
  have executed : Executed addresses accounts invocation (storeReceipt accounts address
      { receipt with verified := true, verifySlot := invocation.slot }) :=
    .proofVerified called (receipt_at_some_iff.mp found) signed unverified present
  rw [step_of_executed executed, receipt_at_store_receipt, if_pos rfl]

theorem receipt_changes (addresses : ProgramAddresses)
    (found : receiptAt accounts address = some receipt) :
    receiptAt (step addresses accounts invocation) address = some receipt ∨
      ReplacesProof accounts invocation address receipt ∨
      VerifiesReceipt accounts invocation address receipt := by
  have change := receipt_step addresses accounts invocation address
  generalize receiptAt (step addresses accounts invocation) address = left at change
  cases change with
  | kept => exact .inl found
  | created called placed vacant configured signed running =>
      rw [vacant] at found
      cases found
  | proven called there signed unverified =>
      rename_i submitter proofHash
      rw [there] at found
      cases found
      by_cases same : proofHash = receipt.proofHash
      · left
        rw [same]
      · exact .inr (.inl ⟨there, unverified, submitter, proofHash, called, signed, same⟩)
  | verified called there signed unverified present =>
      rw [there] at found
      cases found
      exact .inr (.inr ⟨there, unverified, present, _, called, signed⟩)

theorem proof_hash_changes_iff (found : receiptAt accounts address = some receipt)
    (after : receiptAt (step addresses accounts invocation) address = some next) :
    next.proofHash ≠ receipt.proofHash ↔ ReplacesProof accounts invocation address receipt := by
  constructor
  · intro different
    obtain kept | replaces | verifies := receipt_changes addresses found
    · rw [kept] at after
      cases after
      exact absurd rfl different
    · exact replaces
    · rw [step_verifies_receipt addresses verifies] at after
      cases after
      exact absurd rfl different
  · intro replaces
    obtain ⟨proofHash, different, written⟩ := step_replaces_proof addresses replaces
    rw [written] at after
    cases after
    exact different

theorem becomes_verified_iff (found : receiptAt accounts address = some receipt)
    (after : receiptAt (step addresses accounts invocation) address = some next) :
    (receipt.verified = false ∧ next.verified = true) ↔
      VerifiesReceipt accounts invocation address receipt := by
  constructor
  · intro turned
    obtain ⟨unverified, verified⟩ := turned
    obtain kept | replaces | verifies := receipt_changes addresses found
    · rw [kept] at after
      cases after
      rw [unverified] at verified
      cases verified
    · obtain ⟨proofHash, _, written⟩ := step_replaces_proof addresses replaces
      rw [written] at after
      cases after
      change receipt.verified = true at verified
      rw [unverified] at verified
      cases verified
    · exact verifies
  · intro verifies
    rw [step_verifies_receipt addresses verifies] at after
    cases after
    exact ⟨verifies.2.1, rfl⟩

theorem receipt_unchanged_iff (found : receiptAt accounts address = some receipt) :
    receiptAt (step addresses accounts invocation) address = receiptAt accounts address ↔
      ¬ ReplacesProof accounts invocation address receipt ∧
        ¬ VerifiesReceipt accounts invocation address receipt := by
  constructor
  · intro unchanged
    rw [found] at unchanged
    constructor
    · intro replaces
      exact (proof_hash_changes_iff found unchanged).mpr replaces rfl
    · intro verifies
      obtain ⟨unverified, verified⟩ := (becomes_verified_iff found unchanged).mpr verifies
      rw [unverified] at verified
      cases verified
  · intro neither
    obtain kept | replaces | verifies := receipt_changes addresses found
    · rw [kept, found]
    · exact absurd replaces neither.1
    · exact absurd verifies neither.2

end OneInstruction

/-! ## Authorisation -/

section Authorisation

variable (addresses : ProgramAddresses) (accounts : Accounts) (invocation : Invocation)

def AuthoritySigned : Prop :=
  ∃ config, configAt accounts addresses.globalConfig = some config ∧
    config.authority ∈ invocation.signers

/-- A receipt becomes verified only under the authority's signature. -/
def VerifiedByAuthority : Prop :=
  ∀ address receipt next, receiptAt accounts address = some receipt →
    receiptAt (step addresses accounts invocation) address = some next →
    receipt.verified = false ∧ next.verified = true → AuthoritySigned addresses accounts invocation

/-- A proof hash changes only under the signature of the receipt's submitter. -/
def ProvenBySubmitter : Prop :=
  ∀ address receipt next, receiptAt accounts address = some receipt →
    receiptAt (step addresses accounts invocation) address = some next →
    next.proofHash ≠ receipt.proofHash → receipt.submitter ∈ invocation.signers

def Authorised : Prop :=
  VerifiedByAuthority addresses accounts invocation ∧
    ProvenBySubmitter addresses accounts invocation

/-- The signatures that the program does not ask for are there. -/
def SignedByOwners : Prop :=
  (∀ address receipt, VerifiesReceipt accounts invocation address receipt →
    AuthoritySigned addresses accounts invocation) ∧
  (∀ address receipt, ReplacesProof accounts invocation address receipt →
    receipt.submitter ∈ invocation.signers)

theorem verified_by_authority_iff :
    VerifiedByAuthority addresses accounts invocation ↔
      ∀ address receipt, VerifiesReceipt accounts invocation address receipt →
        AuthoritySigned addresses accounts invocation := by
  constructor
  · intro guarded address receipt verifies
    have after := step_verifies_receipt addresses verifies
    apply guarded address receipt _ verifies.1 after
    exact ⟨verifies.2.1, rfl⟩
  · intro signed address receipt next found after turned
    exact signed address receipt ((becomes_verified_iff found after).mp turned)

theorem proven_by_submitter_iff :
    ProvenBySubmitter addresses accounts invocation ↔
      ∀ address receipt, ReplacesProof accounts invocation address receipt →
        receipt.submitter ∈ invocation.signers := by
  constructor
  · intro guarded address receipt replaces
    obtain ⟨proofHash, different, after⟩ := step_replaces_proof addresses replaces
    exact guarded address receipt _ replaces.1 after different
  · intro signed address receipt next found after different
    exact signed address receipt ((proof_hash_changes_iff found after).mp different)

theorem authorised_iff :
    Authorised addresses accounts invocation ↔
      SignedByOwners addresses accounts invocation := by
  rw [Authorised, verified_by_authority_iff, proven_by_submitter_iff]
  exact Iff.rfl

end Authorisation

/-- The chain is authorised exactly as far as its callers bring the signatures themselves. -/
theorem authorised_exactly_when_owners_sign (addresses : ProgramAddresses)
    (invocations : List Invocation) :
    EachStep (step addresses) noAccounts invocations (Authorised addresses) ↔
      EachStep (step addresses) noAccounts invocations (SignedByOwners addresses) := by
  apply each_step_congr
  intro accounts invocation
  exact authorised_iff addresses accounts invocation

/-- `1` is the authority and `2` the submitter; `9` signs for both. -/
def strangersRun : List Invocation :=
  [ ⟨.initializeConfig ⟨filled 7⟩ ⟨filled 1⟩ ⟨filled 1⟩, [⟨filled 1⟩], 5⟩,
    ⟨.submitBatch ⟨filled 7⟩ ⟨filled 3⟩ ⟨filled 2⟩ (filled 3) (filled 4) 10 900, [⟨filled 2⟩], 6⟩,
    ⟨.submitProof ⟨filled 3⟩ ⟨filled 9⟩ (filled 5), [⟨filled 9⟩], 7⟩,
    ⟨.verifyProof ⟨filled 3⟩ ⟨filled 9⟩, [⟨filled 9⟩], 8⟩ ]

theorem stranger_proves_and_verifies :
    ¬ EachStep (step plainAddresses) noAccounts strangersRun
        (ProvenBySubmitter plainAddresses) ∧
      ¬ EachStep (step plainAddresses) noAccounts strangersRun
        (VerifiedByAuthority plainAddresses) := by
  have submitted : receiptAt (stateAfter (step plainAddresses) noAccounts strangersRun 2)
      ⟨filled 3⟩ =
        some ⟨filled 3, filled 4, zeroBytes, 10, 900, false, ⟨filled 2⟩, 6, 0⟩ := by
    decide +kernel
  have proven : receiptAt (stateAfter (step plainAddresses) noAccounts strangersRun 3)
      ⟨filled 3⟩ =
        some ⟨filled 3, filled 4, filled 5, 10, 900, false, ⟨filled 2⟩, 6, 0⟩ := by
    decide +kernel
  have verified : receiptAt (stateAfter (step plainAddresses) noAccounts strangersRun 4)
      ⟨filled 3⟩ =
        some ⟨filled 3, filled 4, filled 5, 10, 900, true, ⟨filled 2⟩, 6, 8⟩ := by
    decide +kernel
  have configured : configAt (stateAfter (step plainAddresses) noAccounts strangersRun 3)
      plainAddresses.globalConfig = some ⟨⟨filled 1⟩, false, 1, zeroBytes⟩ := by
    decide +kernel
  constructor
  · intro guarded
    have signed := guarded 2 _ rfl _ _ _ submitted proven (by decide +kernel)
    revert signed
    decide +kernel
  · intro guarded
    obtain ⟨config, found, signed⟩ :=
      guarded 3 _ rfl _ _ _ proven verified (by decide)
    rw [configured] at found
    cases found
    revert signed
    decide +kernel

/-! ## The pause flag -/

def Instruction.switchesPause : Instruction → Bool
  | .pause _ _ => true
  | .resume _ _ => true
  | _ => false

section Pausing

variable (addresses : ProgramAddresses) (accounts : Accounts) (invocation : Invocation)

def LeavesProtocol (config : GlobalConfig) (next : Accounts) : Prop :=
  (∃ after, configAt next addresses.globalConfig = some after ∧
    after.policyName = config.policyName ∧ after.batchCount = config.batchCount) ∧
  ∀ address, receiptAt next address = receiptAt accounts address

/-- While the flag is set nothing happens, and only the authority's `resume` clears it. -/
def StopsWhilePaused : Prop :=
  ∀ config, configAt accounts addresses.globalConfig = some config → config.paused = true →
    (Instruction.switchesPause invocation.instruction = false →
      (∃ error, execute addresses accounts invocation = .error error) ∨
      ∃ next, execute addresses accounts invocation = .ok next ∧
        LeavesProtocol addresses accounts config next) ∧
    ∃ after, configAt (step addresses accounts invocation) addresses.globalConfig = some after ∧
      (after.paused = false → invocation.instruction =
        .resume addresses.globalConfig config.authority ∧
          config.authority ∈ invocation.signers)

/-- The instructions that do not see the flag leave the receipts alone by themselves. -/
def ReceiptsLeftWhilePaused : Prop :=
  ∀ config, configAt accounts addresses.globalConfig = some config → config.paused = true →
    ∀ address receipt, ¬ ReplacesProof accounts invocation address receipt ∧
      ¬ VerifiesReceipt accounts invocation address receipt

end Pausing

section Paused

variable {addresses : ProgramAddresses} {accounts : Accounts} {invocation : Invocation}
  {config : GlobalConfig}

theorem config_while_paused (invocation : Invocation)
    (configured : configAt accounts addresses.globalConfig = some config)
    (paused : config.paused = true) :
    ∃ after, configAt (step addresses accounts invocation) addresses.globalConfig = some after ∧
      (after.policyName = config.policyName ∧ after.batchCount = config.batchCount) ∧
      (after.paused = false → invocation.instruction =
        .resume addresses.globalConfig config.authority ∧
          config.authority ∈ invocation.signers) := by
  have change := config_step addresses accounts invocation
  generalize configAt (step addresses accounts invocation) addresses.globalConfig = left
    at change
  cases change with
  | kept =>
      refine ⟨config, configured, ⟨rfl, rfl⟩, ?_⟩
      intro cleared
      rw [paused] at cleared
      cases cleared
  | initialized vacant =>
      rw [vacant] at configured
      cases configured
  | policyUpdated found running | counted found running =>
      rw [found] at configured
      cases configured
      rw [running] at paused
      cases paused
  | paused found =>
      rw [found] at configured
      cases configured
      refine ⟨_, rfl, ⟨rfl, rfl⟩, ?_⟩
      intro cleared
      cases cleared
  | resumed called found signed =>
      rw [found] at configured
      cases configured
      refine ⟨_, rfl, ⟨rfl, rfl⟩, ?_⟩
      intro _
      exact ⟨called, signed⟩

theorem vacant_while_paused
    (configured : configAt accounts addresses.globalConfig = some config)
    (paused : config.paused = true) {address : Pubkey}
    (vacant : receiptAt accounts address = none) :
    receiptAt (step addresses accounts invocation) address = none := by
  have change := receipt_step addresses accounts invocation address
  generalize receiptAt (step addresses accounts invocation) address = left at change
  cases change with
  | kept => exact vacant
  | created called placed empty found signed running =>
      rw [found] at configured
      cases configured
      rw [running] at paused
      cases paused
  | proven called there signed unverified | verified called there signed unverified present =>
      rw [there] at vacant
      cases vacant

theorem receipts_while_paused
    (configured : configAt accounts addresses.globalConfig = some config)
    (paused : config.paused = true) :
    (∀ address, receiptAt (step addresses accounts invocation) address =
      receiptAt accounts address) ↔
    ∀ address receipt, ¬ ReplacesProof accounts invocation address receipt ∧
      ¬ VerifiesReceipt accounts invocation address receipt := by
  constructor
  · intro unchanged address receipt
    constructor
    · intro replaces
      exact ((receipt_unchanged_iff replaces.1).mp (unchanged address)).1 replaces
    · intro verifies
      exact ((receipt_unchanged_iff verifies.1).mp (unchanged address)).2 verifies
  · intro neither address
    cases found : receiptAt accounts address with
    | none => exact vacant_while_paused configured paused found
    | some receipt =>
        rw [← found]
        exact (receipt_unchanged_iff found).mpr (neither address receipt)

theorem stops_while_paused_iff :
    StopsWhilePaused addresses accounts invocation ↔
      ReceiptsLeftWhilePaused addresses accounts invocation := by
  constructor
  · intro stops config configured paused address receipt
    have unchanged : Instruction.switchesPause invocation.instruction = false →
        receiptAt (step addresses accounts invocation) address =
          receiptAt accounts address := by
      intro other
      obtain ⟨error, failed⟩ | ⟨next, executed, left⟩ := (stops config configured paused).1 other
      · rw [step, failed]
      · rw [step, executed]
        exact left.2 address
    constructor
    · intro replaces
      obtain ⟨submitter, proofHash, called, _⟩ := replaces.2.2
      have other : Instruction.switchesPause invocation.instruction = false := by
        rw [called]
        rfl
      exact ((receipt_unchanged_iff replaces.1).mp (unchanged other)).1 replaces
    · intro verifies
      obtain ⟨authority, called, _⟩ := verifies.2.2.2
      have other : Instruction.switchesPause invocation.instruction = false := by
        rw [called]
        rfl
      exact ((receipt_unchanged_iff verifies.1).mp (unchanged other)).2 verifies
  · intro leftAlone config configured paused
    obtain ⟨after, there, same, cleared⟩ := config_while_paused invocation configured paused
    refine ⟨?_, after, there, cleared⟩
    intro _
    cases executed : execute addresses accounts invocation with
    | error error => exact .inl ⟨error, rfl⟩
    | ok next =>
        right
        have reached : step addresses accounts invocation = next := by
          rw [step, executed]
        rw [reached] at there
        refine ⟨next, rfl, ⟨after, there, same⟩, ?_⟩
        rw [← reached]
        exact (receipts_while_paused configured paused).mpr
          (leftAlone config configured paused)

end Paused

/-- The pause stops the protocol exactly as far as nobody touches a receipt meanwhile. -/
theorem pause_stops_exactly_when_receipts_left (addresses : ProgramAddresses)
    (invocations : List Invocation) :
    EachStep (step addresses) noAccounts invocations (StopsWhilePaused addresses) ↔
      EachStep (step addresses) noAccounts invocations (ReceiptsLeftWhilePaused addresses) := by
  apply each_step_congr
  intro accounts invocation
  exact stops_while_paused_iff

/-- The batch is proven and verified after the authority has paused the program. -/
def pausedRun : List Invocation :=
  [ ⟨.initializeConfig ⟨filled 7⟩ ⟨filled 1⟩ ⟨filled 1⟩, [⟨filled 1⟩], 5⟩,
    ⟨.submitBatch ⟨filled 7⟩ ⟨filled 3⟩ ⟨filled 2⟩ (filled 3) (filled 4) 10 900, [⟨filled 2⟩], 6⟩,
    ⟨.pause ⟨filled 7⟩ ⟨filled 1⟩, [⟨filled 1⟩], 7⟩,
    ⟨.submitProof ⟨filled 3⟩ ⟨filled 2⟩ (filled 5), [⟨filled 2⟩], 8⟩,
    ⟨.verifyProof ⟨filled 3⟩ ⟨filled 1⟩, [⟨filled 1⟩], 9⟩ ]

theorem batch_verified_while_paused :
    ¬ EachStep (step plainAddresses) noAccounts pausedRun (StopsWhilePaused plainAddresses) := by
  intro stops
  have configured : configAt (stateAfter (step plainAddresses) noAccounts pausedRun 4)
      plainAddresses.globalConfig = some ⟨⟨filled 1⟩, true, 1, zeroBytes⟩ := by
    decide +kernel
  have proven : receiptAt (stateAfter (step plainAddresses) noAccounts pausedRun 4)
      ⟨filled 3⟩ =
        some ⟨filled 3, filled 4, filled 5, 10, 900, false, ⟨filled 2⟩, 6, 0⟩ := by
    decide +kernel
  have verified : receiptAt (stateAfter (step plainAddresses) noAccounts pausedRun 5)
      ⟨filled 3⟩ =
        some ⟨filled 3, filled 4, filled 5, 10, 900, true, ⟨filled 2⟩, 6, 9⟩ := by
    decide +kernel
  have taken : pausedRun[4]? = some ⟨.verifyProof ⟨filled 3⟩ ⟨filled 1⟩, [⟨filled 1⟩], 9⟩ := rfl
  rw [state_after_succ taken] at verified
  obtain ⟨error, failed⟩ | ⟨next, executed, left⟩ := (stops 4 _ taken _ configured rfl).1 rfl
  · rw [step, failed, proven] at verified
    cases verified
  · rw [step, executed] at verified
    have unchanged := left.2 ⟨filled 3⟩
    rw [verified, proven] at unchanged
    cases unchanged

end CatalystSvm.OnchainGuards
