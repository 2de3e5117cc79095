import CatalystSvm.CommonTypes

/-!
# Messages of the RPC interface

The request and response records that validator, verifier node and client share,
over the JSON values of `serde_json`.
-/

namespace CatalystSvm.RpcMessages

set_option autoImplicit false

inductive Number where
  | unsigned (value : UInt64)
  | negative (value : Int64)
  | float (value : Float)

/-- `serde_json::Value`; the keys of an object are distinct. -/
inductive Value where
  | null
  | bool (value : Bool)
  | number (value : Number)
  | string (value : String)
  | array (items : List Value)
  | object (fields : List (String × Value))

def Value.get (value : Value) (key : String) : Option Value :=
  match value with
  | .object fields => fields.lookup key
  | _ => none

def Value.asStr : Value → Option String
  | .string value => some value
  | _ => none

def Value.asU64 : Value → Option UInt64
  | .number (.unsigned value) => some value
  | _ => none

def Value.ofU64 (value : UInt64) : Value := .number (.unsigned value)

def Value.ofUsize (value : Nat) : Value := .ofU64 (UInt64.ofNat value)

structure RpcRequest where
  method : String
  params : Value
  id : UInt64

structure RpcResponse where
  result : Value
  id : UInt64
  error : Option String

def RpcResponse.success (id : UInt64) (result : Value) : RpcResponse where
  result := result
  id := id
  error := none

def RpcResponse.failure (id : UInt64) (error : String) : RpcResponse where
  result := .null
  id := id
  error := some error

end CatalystSvm.RpcMessages
