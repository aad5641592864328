/-
This file defines request identifiers.  A request without one is a notification and gets no
answer.
-/

import RpcDispatch.Json.Decoder

namespace RpcDispatch.Rpc

inductive Id where
  | integer (value : Int)
  | string (text : String)
  | absent
  deriving DecidableEq, Inhabited

namespace Id

def isEmpty : Id → Bool
  | .absent => true
  | _ => false

/-- An absent identifier is written as null. -/
def toValue : Id → Json.Value
  | .integer value => .integer value
  | .string text => .string text
  | .absent => .null

/-- Identifiers are signed 64-bit integers, texts, and null. -/
def ofValue? : Json.Value → Option Id
  | .number (.integer value) =>
    if -0x8000000000000000 ≤ value ∧ value ≤ 0x7FFFFFFFFFFFFFFF then some (.integer value)
    else none
  | .string text => some (.string text)
  | .null => some .absent
  | _ => none

def decoder : Json.Decoder Id :=
  .untagged "RequestId" ofValue?

/-- The form of an identifier in messages and logs. -/
def display : Id → String
  | .integer value => (Json.Number.integer value).text
  | .string text => "\"" ++ text ++ "\""
  | .absent => "<none>"

/-- The form of an identifier that shows its kind. -/
def debugText : Id → String
  | .integer value => "Integer(" ++ (Json.Number.integer value).text ++ ")"
  | .string text => "String(" ++ Text.quoted text ++ ")"
  | .absent => "Absent"

end Id

end RpcDispatch.Rpc
