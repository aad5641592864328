/-
This file reads whole JSON values.  Containers nest at most `maxDepth` deep.
-/

import RpcDispatch.Json.Lexeme

namespace RpcDispatch.Json

def maxDepth : Nat := 127

/-! ### The parts between values -/

/-- Whether another item follows.  The input is left at the item or at the closing bracket. -/
def nextItem (first : Bool) (input : Bytes) : Except Failure (Bool × Bytes) :=
  match skipBlanks input with
  | [] => .error (.here .endOfList [])
  | 93 :: rest => .ok (false, 93 :: rest)
  | byte :: rest =>
    if first then .ok (true, byte :: rest)
    else if byte = 44 then
      match skipBlanks rest with
      | [] => .error (.here .endOfValue [])
      | 93 :: rest => .error (.here .trailingComma (93 :: rest))
      | rest => .ok (true, rest)
    else .error (.here .expectedListEnd (byte :: rest))

/-- Whether another member follows.  The input is left at its name or at the closing brace. -/
def nextMember (first : Bool) (input : Bytes) : Except Failure (Bool × Bytes) :=
  match skipBlanks input with
  | [] => .error (.here .endOfObject [])
  | 125 :: rest => .ok (false, 125 :: rest)
  | byte :: rest =>
    if first then
      if byte = 34 then .ok (true, byte :: rest) else .error (.here .keyNotString (byte :: rest))
    else if byte = 44 then
      match skipBlanks rest with
      | [] => .error (.here .endOfValue [])
      | 34 :: rest => .ok (true, 34 :: rest)
      | 125 :: rest => .error (.here .trailingComma (125 :: rest))
      | rest => .error (.here .keyNotString rest)
    else .error (.here .expectedObjectEnd (byte :: rest))

/-- The colon between a name and its value. -/
def readColon (input : Bytes) : Except Failure (Unit × Bytes) :=
  match skipBlanks input with
  | [] => .error (.here .endOfObject [])
  | 58 :: rest => .ok ((), rest)
  | rest => .error (.here .expectedColon rest)

/-! ### Containers -/

/-- The items after an opening bracket, up to and with the closing one. -/
def readItems {α : Type} (readItem : Reader α) :
    (fuel : Nat) → (reversed : List α) → Reader (List α)
  | 0, _, input => .error (.here .endOfList input)
  | fuel + 1, reversed, input =>
    match nextItem reversed.isEmpty input with
    | .error failure => .error failure
    | .ok (false, rest) => .ok (reversed.reverse, rest.tail)
    | .ok (true, rest) =>
      match readItem rest with
      | .error failure => .error failure
      | .ok (item, rest) => readItems readItem fuel (item :: reversed) rest

/-- A name, a colon and a value. -/
def readMember {α : Type} (readItem : Reader α) (input : Bytes) :
    Except Failure ((String × α) × Bytes) :=
  match readString input with
  | .error failure => .error failure
  | .ok (name, rest) =>
    match readColon rest with
    | .error failure => .error failure
    | .ok ((), rest) =>
      match readItem rest with
      | .error failure => .error failure
      | .ok (value, rest) => .ok ((name, value), rest)

/-- The members after an opening brace, up to and with the closing one. -/
def readMembers {α : Type} (readItem : Reader α) :
    (fuel : Nat) → (reversed : List (String × α)) → Reader (List (String × α))
  | 0, _, input => .error (.here .endOfObject input)
  | fuel + 1, reversed, input =>
    match nextMember reversed.isEmpty input with
    | .error failure => .error failure
    | .ok (false, rest) => .ok (reversed.reverse, rest.tail)
    | .ok (true, rest) =>
      match readMember readItem rest with
      | .error failure => .error failure
      | .ok (member, rest) => readMembers readItem fuel (member :: reversed) rest

/-! ### Values -/

/-- Reads one value, where `nested` reads the values inside it, if any may be there.  An object
keeps the last of the members with one name. -/
def readValueWith (fuel : Nat) (nested : Option (Reader Value)) (input : Bytes) :
    Except Failure (Value × Bytes) :=
  let input := skipBlanks input
  match Lead.ofInput input with
  | .absent => .error (.here .endOfValue input)
  | .nullWord => (readNull input).map fun (_, rest) => (.null, rest)
  | .trueWord => (readTrue input).map fun (_, rest) => (.bool true, rest)
  | .falseWord => (readFalse input).map fun (_, rest) => (.bool false, rest)
  | .minus | .digit => (readNumber input).map fun (number, rest) => (.number number, rest)
  | .quote => (readString input).map fun (text, rest) => (.string text, rest)
  | .bracket =>
    match nested with
    | none => .error (.here .tooDeep input)
    | some readItem =>
      (readItems readItem fuel [] input.tail).map fun (items, rest) => (.array items, rest)
  | .brace =>
    match nested with
    | none => .error (.here .tooDeep input)
    | some readItem =>
      (readMembers readItem fuel [] input.tail).map fun (members, rest) =>
        (.object (collectMembers members), rest)
  | .other => .error (.here .expectedValue input)

/-- Reads a value whose containers nest at most `depth` deep.  No container of the input has
`fuel` items or more. -/
def readValue (fuel : Nat) : (depth : Nat) → Reader Value
  | 0 => readValueWith fuel none
  | depth + 1 => readValueWith fuel (some (readValue fuel depth))

/-- No more than blanks may follow the value of a text. -/
def readDocument {α : Type} (reader : Reader α) (input : Bytes) : Except Failure α :=
  match reader input with
  | .error failure => .error failure
  | .ok (value, rest) =>
    match skipBlanks rest with
    | [] => .ok value
    | rest => .error (.here .trailingCharacters rest)

/-- The value of a JSON text. -/
def Value.ofBytes (input : Bytes) : Except Failure Value :=
  readDocument (readValue (input.length + 1) maxDepth) input

end RpcDispatch.Json
