/-
This file turns results that are not JSON values into such.  Some of them have no JSON form, which
shows in the names of their members.
-/

import RpcDispatch.Bytes
import RpcDispatch.Json.Printer

namespace RpcDispatch.Json

/-- Bytes are an array of numbers. -/
def Value.ofBytesArray (bytes : Bytes) : Value :=
  .array (bytes.map fun byte => .integer byte.toNat)

/-- What an application uses as the name of a member. -/
inductive MemberName where
  | text (name : String)
  | float (bits : UInt64)
  /-- Several values together. -/
  | compound

/-- The text of a name.  A float is written as a number is, if it is one. -/
def MemberName.toText : MemberName → Except String String
  | .text name => .ok name
  | .float bits =>
    match Decimal.classify bits with
    | .infinite _ | .notANumber => .error "float key must be finite (got NaN or +/-inf)"
    | _ => .ok (Number.float bits).text
  | .compound => .error "key must be a string"

/-- The object with one member. -/
def Value.singleton (name : MemberName) (value : Value) : Except String Value :=
  name.toText.map fun name => .object [(name, value)]

end RpcDispatch.Json
