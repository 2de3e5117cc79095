import Mathlib.Algebra.GroupWithZero.Nat
import Mathlib.Logic.Function.Basic

/-!
# The on-chain program

Transcription of `onchain/catalyst_batcher/programs/catalyst_batcher/src/lib.rs`.
Anchor checks the declared account constraints before a handler runs: it loads the
accounts and asks for the signatures, then creates what is to be created, then checks
the seeds and owners of the rest. A failing instruction leaves every account as it was.
The accounts passed to an instruction are addresses chosen by the caller. Rent, the
system program and the space of an account are left out.
-/

namespace CatalystSvm.OnchainBatcher

set_option autoImplicit false

abbrev Bytes32 := Vector UInt8 32

def zeroBytes : Bytes32 := Vector.replicate 32 0

structure Pubkey where
  bytes : Bytes32
  deriving DecidableEq, Repr

structure GlobalConfig where
  authority : Pubkey
  paused : Bool
  batchCount : UInt64
  policyName : Bytes32
  deriving DecidableEq, Repr

structure BatchReceipt where
  batchId : Bytes32
  batchHash : Bytes32
  proofHash : Bytes32
  txCount : UInt32
  totalCompute : UInt64
  verified : Bool
  submitter : Pubkey
  submitSlot : UInt64
  verifySlot : UInt64
  deriving DecidableEq, Repr

/-- What an account that the program owns holds; the discriminator tells them apart. -/
inductive AccountData where
  | globalConfig (data : GlobalConfig)
  | batchReceipt (data : BatchReceipt)
  deriving DecidableEq, Repr

abbrev Accounts := Pubkey → Option AccountData

/-- The program derived addresses, for the seeds `global_config` and `batch_receipt`. -/
structure ProgramAddresses where
  globalConfig : Pubkey
  batchReceipt : Bytes32 → Pubkey

inductive CatalystError where
  | paused
  | alreadyVerified
  | noProof
  deriving DecidableEq, Repr

def CatalystError.msg : CatalystError → String
  | .paused => "System is paused"
  | .alreadyVerified => "Batch already verified"
  | .noProof => "No proof submitted"

theorem catalyst_error_msg_injective : Function.Injective CatalystError.msg := by
  intro first second same
  cases first <;> cases second <;> first | rfl | exact absurd same (by decide)

/-- An error of the program, or of the framework before or after its handler. -/
inductive ProgramError where
  | custom (error : CatalystError)
  | accountInUse
  | accountNotInitialized
  | discriminatorMismatch
  | constraintSeeds
  | constraintHasOne
  | accountNotSigner
  | arithmeticOverflow
  deriving DecidableEq, Repr

/-- The accounts of the instruction first, then its arguments. -/
inductive Instruction where
  | initializeConfig (config payer : Pubkey) (authority : Pubkey)
  | updatePolicy (config authority : Pubkey) (policyName : Bytes32)
  | submitBatch (config receipt submitter : Pubkey) (batchId batchHash : Bytes32)
      (txCount : UInt32) (totalCompute : UInt64)
  | submitProof (receipt submitter : Pubkey) (proofHash : Bytes32)
  | verifyProof (receipt authority : Pubkey)
  | pause (config authority : Pubkey)
  | resume (config authority : Pubkey)
  deriving DecidableEq, Repr

/-- An instruction, who signed its transaction, and the slot it runs in. -/
structure Invocation where
  instruction : Instruction
  signers : List Pubkey
  slot : UInt64
  deriving DecidableEq, Repr

/-! ## Account constraints -/

def ensure (condition : Prop) [Decidable condition] (error : ProgramError) :
    Except ProgramError Unit :=
  if condition then .ok () else .error error

def loadConfig (accounts : Accounts) (address : Pubkey) : Except ProgramError GlobalConfig :=
  match accounts address with
  | some (.globalConfig data) => .ok data
  | some (.batchReceipt _) => .error .discriminatorMismatch
  | none => .error .accountNotInitialized

def loadReceipt (accounts : Accounts) (address : Pubkey) : Except ProgramError BatchReceipt :=
  match accounts address with
  | some (.batchReceipt data) => .ok data
  | some (.globalConfig _) => .error .discriminatorMismatch
  | none => .error .accountNotInitialized

def storeConfig (accounts : Accounts) (address : Pubkey) (data : GlobalConfig) : Accounts :=
  Function.update accounts address (some (.globalConfig data))

def storeReceipt (accounts : Accounts) (address : Pubkey) (data : BatchReceipt) : Accounts :=
  Function.update accounts address (some (.batchReceipt data))

section Handlers

variable (addresses : ProgramAddresses) (accounts : Accounts) (signers : List Pubkey)

def initializeConfig (config payer authority : Pubkey) : Except ProgramError Accounts := do
  ensure (payer ∈ signers) .accountNotSigner
  ensure (config = addresses.globalConfig) .constraintSeeds
  ensure (accounts config = none) .accountInUse
  .ok (storeConfig accounts config {
    authority := authority
    paused := false
    batchCount := 0
    policyName := zeroBytes })

/-- The accounts of `UpdatePolicy`, `Pause` and `Resume`, which are declared alike. -/
def authorisedConfig (config authority : Pubkey) : Except ProgramError GlobalConfig := do
  let data ← loadConfig accounts config
  ensure (authority ∈ signers) .accountNotSigner
  ensure (config = addresses.globalConfig) .constraintSeeds
  ensure (data.authority = authority) .constraintHasOne
  .ok data

def updatePolicy (config authority : Pubkey) (policyName : Bytes32) :
    Except ProgramError Accounts := do
  let data ← authorisedConfig addresses accounts signers config authority
  ensure (data.paused = false) (.custom .paused)
  .ok (storeConfig accounts config { data with policyName := policyName })

/-- The receipt account is new and all zero; `verify_slot` stays so. -/
def submitBatch (slot : UInt64) (config receipt submitter : Pubkey)
    (batchId batchHash : Bytes32) (txCount : UInt32) (totalCompute : UInt64) :
    Except ProgramError Accounts := do
  let data ← loadConfig accounts config
  ensure (submitter ∈ signers) .accountNotSigner
  ensure (receipt = addresses.batchReceipt batchId) .constraintSeeds
  ensure (accounts receipt = none) .accountInUse
  ensure (config = addresses.globalConfig) .constraintSeeds
  ensure (data.paused = false) (.custom .paused)
  let created : BatchReceipt :=
    { batchId := batchId
      batchHash := batchHash
      txCount := txCount
      totalCompute := totalCompute
      proofHash := zeroBytes
      verified := false
      submitter := submitter
      submitSlot := slot
      verifySlot := 0 }
  ensure (data.batchCount.toNat + 1 < 2 ^ 64) .arithmeticOverflow
  .ok (storeConfig (storeReceipt accounts receipt created) config
    { data with batchCount := data.batchCount + 1 })

/-- Neither the submitter nor the pause flag is looked at. -/
def submitProof (receipt submitter : Pubkey) (proofHash : Bytes32) :
    Except ProgramError Accounts := do
  let data ← loadReceipt accounts receipt
  ensure (submitter ∈ signers) .accountNotSigner
  ensure (data.verified = false) (.custom .alreadyVerified)
  .ok (storeReceipt accounts receipt { data with proofHash := proofHash })

/-- Any signer passes as `authority`. -/
def verifyProof (slot : UInt64) (receipt authority : Pubkey) : Except ProgramError Accounts := do
  let data ← loadReceipt accounts receipt
  ensure (authority ∈ signers) .accountNotSigner
  ensure (data.verified = false) (.custom .alreadyVerified)
  ensure (data.proofHash ≠ zeroBytes) (.custom .noProof)
  .ok (storeReceipt accounts receipt { data with verified := true, verifySlot := slot })

def pause (config authority : Pubkey) : Except ProgramError Accounts := do
  let data ← authorisedConfig addresses accounts signers config authority
  .ok (storeConfig accounts config { data with paused := true })

def resume (config authority : Pubkey) : Except ProgramError Accounts := do
  let data ← authorisedConfig addresses accounts signers config authority
  .ok (storeConfig accounts config { data with paused := false })

end Handlers

def execute (addresses : ProgramAddresses) (accounts : Accounts) (invocation : Invocation) :
    Except ProgramError Accounts :=
  match invocation.instruction with
  | .initializeConfig config payer authority =>
      initializeConfig addresses accounts invocation.signers config payer authority
  | .updatePolicy config authority policyName =>
      updatePolicy addresses accounts invocation.signers config authority policyName
  | .submitBatch config receipt submitter batchId batchHash txCount totalCompute =>
      submitBatch addresses accounts invocation.signers invocation.slot config receipt submitter
        batchId batchHash txCount totalCompute
  | .submitProof receipt submitter proofHash =>
      submitProof accounts invocation.signers receipt submitter proofHash
  | .verifyProof receipt authority =>
      verifyProof accounts invocation.signers invocation.slot receipt authority
  | .pause config authority => pause addresses accounts invocation.signers config authority
  | .resume config authority => resume addresses accounts invocation.signers config authority

/-- One instruction on the chain; a failing one changes nothing. -/
def step (addresses : ProgramAddresses) (accounts : Accounts) (invocation : Invocation) :
    Accounts :=
  match execute addresses accounts invocation with
  | .ok next => next
  | .error _ => accounts

def noAccounts : Accounts := fun _ => none

/-! ## Everything an instruction can do -/

def newReceipt (slot : UInt64) (submitter : Pubkey) (batchId batchHash : Bytes32)
    (txCount : UInt32) (totalCompute : UInt64) : BatchReceipt where
  batchId := batchId
  batchHash := batchHash
  proofHash := zeroBytes
  txCount := txCount
  totalCompute := totalCompute
  verified := false
  submitter := submitter
  submitSlot := slot
  verifySlot := 0

/-- The instructions that succeed, with what they needed and what they left. -/
inductive Executed (addresses : ProgramAddresses) (accounts : Accounts)
    (invocation : Invocation) : Accounts → Prop where
  | initialized {payer authority : Pubkey}
      (called : invocation.instruction =
        .initializeConfig addresses.globalConfig payer authority)
      (vacant : accounts addresses.globalConfig = none) (signed : payer ∈ invocation.signers) :
      Executed addresses accounts invocation (storeConfig accounts addresses.globalConfig
        ⟨authority, false, 0, zeroBytes⟩)
  | policyUpdated {config : GlobalConfig} {policyName : Bytes32}
      (called : invocation.instruction =
        .updatePolicy addresses.globalConfig config.authority policyName)
      (found : accounts addresses.globalConfig = some (.globalConfig config))
      (signed : config.authority ∈ invocation.signers) (running : config.paused = false) :
      Executed addresses accounts invocation (storeConfig accounts addresses.globalConfig
        { config with policyName := policyName })
  | batchSubmitted {config : GlobalConfig} {submitter : Pubkey} {batchId batchHash : Bytes32}
      {txCount : UInt32} {totalCompute : UInt64}
      (called : invocation.instruction = .submitBatch addresses.globalConfig
        (addresses.batchReceipt batchId) submitter batchId batchHash txCount totalCompute)
      (found : accounts addresses.globalConfig = some (.globalConfig config))
      (vacant : accounts (addresses.batchReceipt batchId) = none)
      (signed : submitter ∈ invocation.signers) (running : config.paused = false)
      (room : config.batchCount.toNat + 1 < 2 ^ 64) :
      Executed addresses accounts invocation (storeConfig
        (storeReceipt accounts (addresses.batchReceipt batchId)
          (newReceipt invocation.slot submitter batchId batchHash txCount totalCompute))
        addresses.globalConfig { config with batchCount := config.batchCount + 1 })
  | proofSubmitted {address submitter : Pubkey} {receipt : BatchReceipt} {proofHash : Bytes32}
      (called : invocation.instruction = .submitProof address submitter proofHash)
      (found : accounts address = some (.batchReceipt receipt))
      (signed : submitter ∈ invocation.signers) (unverified : receipt.verified = false) :
      Executed addresses accounts invocation
        (storeReceipt accounts address { receipt with proofHash := proofHash })
  | proofVerified {address authority : Pubkey} {receipt : BatchReceipt}
      (called : invocation.instruction = .verifyProof address authority)
      (found : accounts address = some (.batchReceipt receipt))
      (signed : authority ∈ invocation.signers) (unverified : receipt.verified = false)
      (proven : receipt.proofHash ≠ zeroBytes) :
      Executed addresses accounts invocation (storeReceipt accounts address
        { receipt with verified := true, verifySlot := invocation.slot })
  | paused {config : GlobalConfig}
      (called : invocation.instruction = .pause addresses.globalConfig config.authority)
      (found : accounts addresses.globalConfig = some (.globalConfig config))
      (signed : config.authority ∈ invocation.signers) :
      Executed addresses accounts invocation (storeConfig accounts addresses.globalConfig
        { config with paused := true })
  | resumed {config : GlobalConfig}
      (called : invocation.instruction = .resume addresses.globalConfig config.authority)
      (found : accounts addresses.globalConfig = some (.globalConfig config))
      (signed : config.authority ∈ invocation.signers) :
      Executed addresses accounts invocation (storeConfig accounts addresses.globalConfig
        { config with paused := false })

section Inversion

variable {addresses : ProgramAddresses} {accounts next : Accounts} {invocation : Invocation}

theorem bind_ok_iff {First Second : Type} {first : Except ProgramError First}
    {following : First → Except ProgramError Second} {result : Second} :
    (first >>= following) = .ok result ↔
      ∃ value, first = .ok value ∧ following value = .ok result := by
  cases first with
  | error error =>
      constructor
      · intro failed
        cases failed
      · intro succeeded
        rcases succeeded with ⟨_, impossible, _⟩
        cases impossible
  | ok value =>
      constructor
      · intro continued
        exact ⟨value, rfl, continued⟩
      · intro succeeded
        rcases succeeded with ⟨other, same, continued⟩
        cases same
        exact continued

theorem ensure_ok_iff {condition : Prop} [Decidable condition] {error : ProgramError}
    {result : Unit} : ensure condition error = .ok result ↔ condition := by
  by_cases holds : condition <;> simp [ensure, holds]

theorem load_config_ok_iff {address : Pubkey} {data : GlobalConfig} :
    loadConfig accounts address = .ok data ↔ accounts address = some (.globalConfig data) := by
  unfold loadConfig
  split <;> simp_all

theorem load_receipt_ok_iff {address : Pubkey} {data : BatchReceipt} :
    loadReceipt accounts address = .ok data ↔ accounts address = some (.batchReceipt data) := by
  unfold loadReceipt
  split <;> simp_all

theorem authorised_config_ok_iff {signers : List Pubkey} {config authority : Pubkey}
    {data : GlobalConfig} :
    authorisedConfig addresses accounts signers config authority = .ok data ↔
      accounts config = some (.globalConfig data) ∧ config = addresses.globalConfig ∧
        data.authority = authority ∧ authority ∈ signers := by
  simp only [authorisedConfig, bind_ok_iff, ensure_ok_iff, load_config_ok_iff, Except.ok.injEq]
  constructor
  · intro passed
    rcases passed with ⟨loaded, found, _, signed, _, seeds, _, owned, same⟩
    subst same
    exact ⟨found, seeds, owned, signed⟩
  · intro facts
    rcases facts with ⟨found, seeds, owned, signed⟩
    exact ⟨data, found, (), signed, (), seeds, (), owned, rfl⟩

theorem executed_of_execute (executed : execute addresses accounts invocation = .ok next) :
    Executed addresses accounts invocation next := by
  rcases invocation with ⟨instruction, signers, slot⟩
  cases instruction with
  | initializeConfig config payer authority =>
      simp only [execute, initializeConfig, bind_ok_iff, ensure_ok_iff, Except.ok.injEq]
        at executed
      rcases executed with ⟨_, signed, _, seeds, _, vacant, result⟩
      subst seeds
      subst result
      exact .initialized rfl vacant signed
  | updatePolicy config authority policyName =>
      simp only [execute, updatePolicy, bind_ok_iff, ensure_ok_iff, authorised_config_ok_iff,
        Except.ok.injEq] at executed
      rcases executed with ⟨data, ⟨found, seeds, owned, signed⟩, _, running, result⟩
      subst seeds
      subst owned
      subst result
      exact .policyUpdated rfl found signed running
  | submitBatch config receipt submitter batchId batchHash txCount totalCompute =>
      simp only [execute, submitBatch, bind_ok_iff, ensure_ok_iff, load_config_ok_iff,
        Except.ok.injEq] at executed
      rcases executed with ⟨data, found, _, signed, _, derived, _, vacant, _, seeds, _, running,
        _, room, result⟩
      subst seeds
      subst derived
      subst result
      exact .batchSubmitted rfl found vacant signed running room
  | submitProof receipt submitter proofHash =>
      simp only [execute, submitProof, bind_ok_iff, ensure_ok_iff, load_receipt_ok_iff,
        Except.ok.injEq] at executed
      rcases executed with ⟨data, found, _, signed, _, unverified, result⟩
      subst result
      exact .proofSubmitted rfl found signed unverified
  | verifyProof receipt authority =>
      simp only [execute, verifyProof, bind_ok_iff, ensure_ok_iff, load_receipt_ok_iff,
        Except.ok.injEq] at executed
      rcases executed with ⟨data, found, _, signed, _, unverified, _, proven, result⟩
      subst result
      exact .proofVerified rfl found signed unverified proven
  | pause config authority =>
      simp only [execute, pause, bind_ok_iff, authorised_config_ok_iff, Except.ok.injEq]
        at executed
      rcases executed with ⟨data, ⟨found, seeds, owned, signed⟩, result⟩
      subst seeds
      subst owned
      subst result
      exact .paused rfl found signed
  | resume config authority =>
      simp only [execute, resume, bind_ok_iff, authorised_config_ok_iff, Except.ok.injEq]
        at executed
      rcases executed with ⟨data, ⟨found, seeds, owned, signed⟩, result⟩
      subst seeds
      subst owned
      subst result
      exact .resumed rfl found signed

theorem execute_of_executed (executed : Executed addresses accounts invocation next) :
    execute addresses accounts invocation = .ok next := by
  rcases invocation with ⟨instruction, signers, slot⟩
  cases executed with
  | initialized called vacant signed =>
      cases called
      simp only [execute, initializeConfig, bind_ok_iff, ensure_ok_iff]
      exact ⟨(), signed, (), trivial, (), vacant, trivial⟩
  | policyUpdated called found signed running =>
      cases called
      simp only [execute, updatePolicy, bind_ok_iff, ensure_ok_iff, authorised_config_ok_iff,
        Except.ok.injEq]
      exact ⟨_, ⟨found, trivial, rfl, signed⟩, (), running, rfl⟩
  | batchSubmitted called found vacant signed running room =>
      cases called
      simp only [execute, submitBatch, bind_ok_iff, ensure_ok_iff, load_config_ok_iff,
        Except.ok.injEq]
      exact ⟨_, found, (), signed, (), trivial, (), vacant, (), trivial, (), running, (), room,
        rfl⟩
  | proofSubmitted called found signed unverified =>
      cases called
      simp only [execute, submitProof, bind_ok_iff, ensure_ok_iff, load_receipt_ok_iff,
        Except.ok.injEq]
      exact ⟨_, found, (), signed, (), unverified, rfl⟩
  | proofVerified called found signed unverified proven =>
      cases called
      simp only [execute, verifyProof, bind_ok_iff, ensure_ok_iff, load_receipt_ok_iff,
        Except.ok.injEq]
      exact ⟨_, found, (), signed, (), unverified, (), proven, rfl⟩
  | paused called found signed =>
      cases called
      simp only [execute, pause, bind_ok_iff, authorised_config_ok_iff, Except.ok.injEq]
      exact ⟨_, ⟨found, trivial, rfl, signed⟩, rfl⟩
  | resumed called found signed =>
      cases called
      simp only [execute, resume, bind_ok_iff, authorised_config_ok_iff, Except.ok.injEq]
      exact ⟨_, ⟨found, trivial, rfl, signed⟩, rfl⟩

theorem execute_ok_iff :
    execute addresses accounts invocation = .ok next ↔
      Executed addresses accounts invocation next :=
  ⟨executed_of_execute, execute_of_executed⟩

theorem step_cases (addresses : ProgramAddresses) (accounts : Accounts)
    (invocation : Invocation) :
    step addresses accounts invocation = accounts ∨
      Executed addresses accounts invocation (step addresses accounts invocation) := by
  cases executed : execute addresses accounts invocation with
  | error error =>
      left
      rw [step, executed]
  | ok next =>
      right
      rw [← execute_ok_iff, step, executed]

theorem step_of_executed (executed : Executed addresses accounts invocation next) :
    step addresses accounts invocation = next := by
  rw [step, execute_ok_iff.mpr executed]

end Inversion

/-! ## Looking at the accounts -/

def receiptAt (accounts : Accounts) (address : Pubkey) : Option BatchReceipt :=
  match accounts address with
  | some (.batchReceipt data) => some data
  | _ => none

def configAt (accounts : Accounts) (address : Pubkey) : Option GlobalConfig :=
  match accounts address with
  | some (.globalConfig data) => some data
  | _ => none

section Lookups

variable {accounts : Accounts} {address other : Pubkey}

theorem receipt_at_some_iff {receipt : BatchReceipt} :
    receiptAt accounts address = some receipt ↔
      accounts address = some (.batchReceipt receipt) := by
  unfold receiptAt
  split <;> simp_all

theorem config_at_some_iff {config : GlobalConfig} :
    configAt accounts address = some config ↔
      accounts address = some (.globalConfig config) := by
  unfold configAt
  split <;> simp_all

theorem receipt_at_of_config {config : GlobalConfig}
    (found : accounts address = some (.globalConfig config)) :
    receiptAt accounts address = none := by
  rw [receiptAt, found]

theorem config_at_of_receipt {receipt : BatchReceipt}
    (found : accounts address = some (.batchReceipt receipt)) :
    configAt accounts address = none := by
  rw [configAt, found]

theorem receipt_at_of_vacant (vacant : accounts address = none) :
    receiptAt accounts address = none := by
  rw [receiptAt, vacant]

theorem config_at_of_vacant (vacant : accounts address = none) :
    configAt accounts address = none := by
  rw [configAt, vacant]

theorem receipt_at_store_receipt (data : BatchReceipt) :
    receiptAt (storeReceipt accounts address data) other =
      if other = address then some data else receiptAt accounts other := by
  unfold receiptAt storeReceipt
  by_cases same : other = address
  · simp [same]
  · simp [same]

theorem config_at_store_config (data : GlobalConfig) :
    configAt (storeConfig accounts address data) other =
      if other = address then some data else configAt accounts other := by
  unfold configAt storeConfig
  by_cases same : other = address
  · simp [same]
  · simp [same]

/-- A config is no receipt, so storing one over a config hides none. -/
theorem receipt_at_store_config (data : GlobalConfig) (unused : receiptAt accounts address = none) :
    receiptAt (storeConfig accounts address data) other = receiptAt accounts other := by
  by_cases same : other = address
  · rw [same, unused]
    simp [receiptAt, storeConfig]
  · simp [receiptAt, storeConfig, same]

theorem config_at_store_receipt (data : BatchReceipt) (unused : configAt accounts address = none) :
    configAt (storeReceipt accounts address data) other = configAt accounts other := by
  by_cases same : other = address
  · rw [same, unused]
    simp [configAt, storeReceipt]
  · simp [configAt, storeReceipt, same]

theorem receipt_at_config_after_store {config : GlobalConfig} (data : BatchReceipt)
    (found : accounts address = some (.globalConfig config)) (vacant : accounts other = none) :
    receiptAt (storeReceipt accounts other data) address = none := by
  have apart : address ≠ other := by
    intro same
    rw [same, vacant] at found
    cases found
  rw [receipt_at_store_receipt, if_neg apart, receipt_at_of_config found]

end Lookups

end CatalystSvm.OnchainBatcher
