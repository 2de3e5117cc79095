import CatalystSvm.CommonMerkle
import CatalystSvm.MachineArithmetic
import CatalystSvm.Library.StepFold

/-!
# The ledger both interpreters implement

An instruction is decoded once and then performed on the account map. This is
the purpose of the instruction set, stated without either interpreter's
bookkeeping: the executor crate and the guest program are two reports on the
same machine, and they differ only in what they say about a refusal.
-/

namespace CatalystSvm.LedgerMachine

open CatalystSvm.CommonMerkle CatalystSvm.MachineArithmetic
open CatalystSvm.Library.StepFold

set_option autoImplicit false

structure Call where
  sender : String
  instructionData : List UInt8
  deriving DecidableEq, Repr

inductive Instruction where
  | empty
  | truncated (opcode : UInt8)
  | transfer (amount targetIdx : UInt64)
  | setData (keyIdx value : UInt64)
  | increment (keyIdx delta : UInt64)
  | noop
  | unknown (opcode : UInt8)
  deriving DecidableEq, Repr

def firstOperand (operands : List UInt8) : UInt64 := fromLeBytes (operands.take 8)

def secondOperand (operands : List UInt8) : UInt64 := fromLeBytes ((operands.drop 8).take 8)

def decode : List UInt8 → Instruction
  | [] => .empty
  | opcode :: operands =>
      if 3 < opcode then .unknown opcode
      else if opcode = 3 then .noop
      else if operands.length < 16 then .truncated opcode
      else if opcode = 0 then .transfer (firstOperand operands) (secondOperand operands)
      else if opcode = 1 then .setData (firstOperand operands) (secondOperand operands)
      else .increment (firstOperand operands) (secondOperand operands)

/-- The shapes of instruction data, one per decoded instruction. -/
inductive Decodes : List UInt8 → Instruction → Prop where
  | empty : Decodes [] .empty
  | unknown {opcode : UInt8} {operands : List UInt8} (large : 3 < opcode) :
      Decodes (opcode :: operands) (.unknown opcode)
  | noop {operands : List UInt8} : Decodes (3 :: operands) .noop
  | truncated {opcode : UInt8} {operands : List UInt8}
      (known : opcode = 0 ∨ opcode = 1 ∨ opcode = 2) (short : operands.length < 16) :
      Decodes (opcode :: operands) (.truncated opcode)
  | transfer {operands : List UInt8} (long : ¬operands.length < 16) :
      Decodes (0 :: operands) (.transfer (firstOperand operands) (secondOperand operands))
  | setData {operands : List UInt8} (long : ¬operands.length < 16) :
      Decodes (1 :: operands) (.setData (firstOperand operands) (secondOperand operands))
  | increment {operands : List UInt8} (long : ¬operands.length < 16) :
      Decodes (2 :: operands) (.increment (firstOperand operands) (secondOperand operands))

theorem opcode_known {opcode : UInt8} (notLarge : ¬3 < opcode) (notNoop : opcode ≠ 3) :
    opcode = 0 ∨ opcode = 1 ∨ opcode = 2 := by
  have bound : ¬3 < opcode.toNat := notLarge
  have different : opcode.toNat ≠ 3 := fun same => notNoop (UInt8.toNat_inj.mp same)
  simp only [← UInt8.toNat_inj]
  change opcode.toNat = 0 ∨ opcode.toNat = 1 ∨ opcode.toNat = 2
  omega

theorem decode_spec (data : List UInt8) : Decodes data (decode data) := by
  cases data with
  | nil => exact .empty
  | cons opcode operands =>
      rw [decode]
      split_ifs with large isNoop short isTransfer isSetData
      · exact .unknown large
      · subst isNoop
        exact .noop
      · exact .truncated (opcode_known large isNoop) short
      · subst isTransfer
        exact .transfer short
      · subst isSetData
        exact .setData short
      · rcases opcode_known large isNoop with zero | one | two
        · exact absurd zero isTransfer
        · exact absurd one isSetData
        · subst two
          exact .increment short

def transferBytes (amount targetIdx : UInt64) : List UInt8 :=
  0 :: (toLeBytes amount ++ toLeBytes targetIdx)

def setDataBytes (keyIdx value : UInt64) : List UInt8 :=
  1 :: (toLeBytes keyIdx ++ toLeBytes value)

theorem operands_of_bytes (first second : UInt64) :
    firstOperand (toLeBytes first ++ toLeBytes second) = first ∧
      secondOperand (toLeBytes first ++ toLeBytes second) = second := by
  have cut := to_le_bytes_length first
  have rest : (toLeBytes second).take 8 = toLeBytes second :=
    List.take_of_length_le (Nat.le_of_eq (to_le_bytes_length second))
  constructor
  · rw [firstOperand, List.take_left' cut, from_le_bytes_to_le_bytes]
  · rw [secondOperand, List.drop_left' cut, rest, from_le_bytes_to_le_bytes]

theorem decode_transfer_bytes (amount targetIdx : UInt64) :
    decode (transferBytes amount targetIdx) = .transfer amount targetIdx := by
  rcases operands_of_bytes amount targetIdx with ⟨first, second⟩
  simp [decode, transferBytes, to_le_bytes_length, first, second]

theorem decode_set_data_bytes (keyIdx value : UInt64) :
    decode (setDataBytes keyIdx value) = .setData keyIdx value := by
  rcases operands_of_bytes keyIdx value with ⟨first, second⟩
  simp [decode, setDataBytes, to_le_bytes_length, first, second]

def balanceOf (state : State) (key : String) : UInt64 := state[key]?.getD 0

theorem insert_get (state : State) (key other : String) (value : UInt64) :
    (state.insert key value)[other]? = if key = other then some value else state[other]? := by
  simp [Std.ExtTreeMap.getElem?_insert]

def accountKey (index : UInt64) : String := "account_" ++ toString index

def dataKey (index : UInt64) : String := "data_" ++ toString index

inductive Outcome where
  | applied (reads writes : List String) (compute : UInt64)
  | overdrawn (needed available : UInt64)
  | refused
  deriving DecidableEq, Repr

def Outcome.succeeded : Outcome → Bool
  | .applied _ _ _ => true
  | .overdrawn _ _ => false
  | .refused => false

/-- One instruction. A refusal leaves the map alone; `none` is an overflow panic. -/
def perform (mode : OverflowMode) (state : State) (sender : String) :
    Instruction → Option (State × Outcome)
  | .transfer amount targetIdx =>
      if balanceOf state sender < amount then
        some (state, .overdrawn amount (balanceOf state sender))
      else do
        let debited ← subU64 mode (balanceOf state sender) amount
        let afterDebit := state.insert sender debited
        -- The credit reads the debited map, so a self-transfer is a no-op on the balance.
        let credited ← addU64 mode (balanceOf afterDebit (accountKey targetIdx)) amount
        some (afterDebit.insert (accountKey targetIdx) credited,
          .applied [sender, accountKey targetIdx] [sender, accountKey targetIdx] 5000)
  | .setData keyIdx value =>
      some (state.insert (dataKey keyIdx) value, .applied [] [dataKey keyIdx] 3000)
  | .increment keyIdx delta =>
      some (state.insert (dataKey keyIdx) (saturatingAdd (balanceOf state (dataKey keyIdx)) delta),
        .applied [dataKey keyIdx] [dataKey keyIdx] 2000)
  | .noop => some (state, .applied [] [] 1000)
  | .empty => some (state, .refused)
  | .truncated _ => some (state, .refused)
  | .unknown _ => some (state, .refused)

def performCall (mode : OverflowMode) (state : State) (call : Call) : Option (State × Outcome) :=
  perform mode state call.sender (decode call.instructionData)

def run (mode : OverflowMode) : State → List Call → Option (State × List Outcome) :=
  runSteps (performCall mode)

/-- Everything one performed instruction can do. -/
inductive Performs (mode : OverflowMode) (state : State) (sender : String) :
    Instruction → State → Outcome → Prop where
  | transferred {amount targetIdx credited : UInt64}
      (covered : amount ≤ balanceOf state sender)
      (added : addU64 mode (balanceOf (state.insert sender (balanceOf state sender - amount))
        (accountKey targetIdx)) amount = some credited) :
      Performs mode state sender (.transfer amount targetIdx)
        ((state.insert sender (balanceOf state sender - amount)).insert
          (accountKey targetIdx) credited)
        (.applied [sender, accountKey targetIdx] [sender, accountKey targetIdx] 5000)
  | overdrawn {amount targetIdx : UInt64} (short : balanceOf state sender < amount) :
      Performs mode state sender (.transfer amount targetIdx) state
        (.overdrawn amount (balanceOf state sender))
  | stored {keyIdx value : UInt64} :
      Performs mode state sender (.setData keyIdx value) (state.insert (dataKey keyIdx) value)
        (.applied [] [dataKey keyIdx] 3000)
  | incremented {keyIdx delta : UInt64} :
      Performs mode state sender (.increment keyIdx delta)
        (state.insert (dataKey keyIdx) (saturatingAdd (balanceOf state (dataKey keyIdx)) delta))
        (.applied [dataKey keyIdx] [dataKey keyIdx] 2000)
  | idle : Performs mode state sender .noop state (.applied [] [] 1000)
  | refusedEmpty : Performs mode state sender .empty state .refused
  | refusedTruncated {opcode : UInt8} :
      Performs mode state sender (.truncated opcode) state .refused
  | refusedUnknown {opcode : UInt8} :
      Performs mode state sender (.unknown opcode) state .refused

theorem perform_spec {mode : OverflowMode} {state next : State} {sender : String}
    {instruction : Instruction} {outcome : Outcome}
    (performed : perform mode state sender instruction = some (next, outcome)) :
    Performs mode state sender instruction next outcome := by
  cases instruction with
  | transfer amount targetIdx =>
      rw [perform] at performed
      by_cases short : balanceOf state sender < amount
      · rw [if_pos short, Option.some.injEq, Prod.mk.injEq] at performed
        rcases performed with ⟨rfl, rfl⟩
        exact .overdrawn short
      · have covered : amount ≤ balanceOf state sender := UInt64.not_lt.mp short
        rw [if_neg short, sub_u64_of_le mode _ _ covered] at performed
        simp only [bind, Option.bind_some, Option.bind_eq_some_iff, Option.some.injEq,
          Prod.mk.injEq] at performed
        rcases performed with ⟨credited, added, rfl, rfl⟩
        exact .transferred covered added
  | setData keyIdx value =>
      cases performed
      exact .stored
  | increment keyIdx delta =>
      cases performed
      exact .incremented
  | noop =>
      cases performed
      exact .idle
  | empty =>
      cases performed
      exact .refusedEmpty
  | truncated opcode =>
      cases performed
      exact .refusedTruncated
  | unknown opcode =>
      cases performed
      exact .refusedUnknown

theorem perform_of_performs {mode : OverflowMode} {state next : State} {sender : String}
    {instruction : Instruction} {outcome : Outcome}
    (performs : Performs mode state sender instruction next outcome) :
    perform mode state sender instruction = some (next, outcome) := by
  cases performs with
  | transferred covered added =>
      rw [perform, if_neg (UInt64.not_lt.mpr covered), sub_u64_of_le mode _ _ covered]
      simp only [bind, Option.bind_some, added]
  | overdrawn short => rw [perform, if_pos short]
  | _ => rfl

theorem perform_compute_le {mode : OverflowMode} {state next : State} {sender : String}
    {instruction : Instruction} {reads writes : List String} {compute : UInt64}
    (performed : perform mode state sender instruction =
      some (next, .applied reads writes compute)) : compute ≤ 5000 := by
  cases perform_spec performed <;> decide

theorem perform_wrapping_total (state : State) (sender : String) (instruction : Instruction) :
    ∃ result, perform .wrapping state sender instruction = some result := by
  cases instruction with
  | transfer amount targetIdx =>
      rw [perform]
      by_cases overdrawn : balanceOf state sender < amount
      · rw [if_pos overdrawn]
        exact ⟨_, rfl⟩
      · rw [if_neg overdrawn]
        exact ⟨_, rfl⟩
  | setData keyIdx value => exact ⟨_, rfl⟩
  | increment keyIdx delta => exact ⟨_, rfl⟩
  | noop => exact ⟨_, rfl⟩
  | empty => exact ⟨_, rfl⟩
  | truncated opcode => exact ⟨_, rfl⟩
  | unknown opcode => exact ⟨_, rfl⟩

theorem run_wrapping_total (state : State) (calls : List Call) :
    ∃ final outcomes, run .wrapping state calls = some (final, outcomes) := by
  apply run_steps_total
  intro state call
  exact perform_wrapping_total state call.sender (decode call.instructionData)

end CatalystSvm.LedgerMachine
