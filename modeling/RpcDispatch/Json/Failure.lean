/-
This file names the ways in which JSON text, or a value of an unexpected shape, is refused, and
gives the wording of each refusal.
-/

import RpcDispatch.Bytes

namespace RpcDispatch.Json

/-- A value that has another shape than its reader expects. -/
inductive Mismatch where
  | wrongType (found expected : String)
  | outOfRange (value : Int) (expected : String)
  | wrongLength (length : Nat) (expected : String)
  | missingField (name : String)
  | duplicateField (name : String)
  | unknownVariant (name : String) (known : List String)
  | noVariant (typeName : String)
  deriving DecidableEq

/-- Names in messages stand between grave accents. -/
def graveQuoted (text : String) : String :=
  "\x60" ++ text ++ "\x60"

def Mismatch.message : Mismatch → String
  | .wrongType found expected => s!"invalid type: {found}, expected {expected}"
  | .outOfRange value expected =>
    "invalid value: integer " ++ graveQuoted (toString value) ++ ", expected " ++ expected
  | .wrongLength length expected => s!"invalid length {length}, expected {expected}"
  | .missingField name => "missing field " ++ graveQuoted name
  | .duplicateField name => "duplicate field " ++ graveQuoted name
  | .unknownVariant name known =>
    "unknown variant " ++ graveQuoted name ++ ", expected "
      ++ " or ".intercalate (known.map graveQuoted)
  | .noVariant typeName => s!"data did not match any variant of untagged enum {typeName}"

inductive Cause where
  | endOfList
  | endOfObject
  | endOfString
  | endOfValue
  | expectedColon
  | expectedListEnd
  | expectedObjectEnd
  | expectedIdent
  | expectedValue
  | invalidEscape
  | invalidNumber
  | numberOutOfRange
  | invalidCodePoint (unread : Nat)
  | controlCharacter
  | keyNotString
  | loneSurrogate
  | unfinishedSurrogate
  | trailingComma
  | trailingCharacters
  | tooDeep
  | mismatch (shape : Mismatch)
  deriving DecidableEq

def Cause.message : Cause → String
  | .endOfList => "EOF while parsing a list"
  | .endOfObject => "EOF while parsing an object"
  | .endOfString => "EOF while parsing a string"
  | .endOfValue => "EOF while parsing a value"
  | .expectedColon => "expected " ++ graveQuoted ":"
  | .expectedListEnd => "expected " ++ graveQuoted "," ++ " or " ++ graveQuoted "]"
  | .expectedObjectEnd => "expected " ++ graveQuoted "," ++ " or " ++ graveQuoted "\x7d"
  | .expectedIdent => "expected ident"
  | .expectedValue => "expected value"
  | .invalidEscape => "invalid escape"
  | .invalidNumber => "invalid number"
  | .numberOutOfRange => "number out of range"
  | .invalidCodePoint _ => "invalid unicode code point"
  | .controlCharacter => "control character (\\u0000-\\u001F) found while parsing a string"
  | .keyNotString => "key must be a string"
  | .loneSurrogate => "lone leading surrogate in hex escape"
  | .unfinishedSurrogate => "unexpected end of hex escape"
  | .trailingComma => "trailing comma"
  | .trailingCharacters => "trailing characters"
  | .tooDeep => "recursion limit exceeded"
  | .mismatch shape => shape.message

/-- A refusal keeps the input that was unread where it happened.  Its place is fixed when it is a
fault of the text; a fault of shape gets its place from the reader that encloses it. -/
structure Failure where
  cause : Cause
  rest : Bytes
  placed : Bool

namespace Failure

/-- A fault seen after the bytes that were taken. -/
def after (cause : Cause) (rest : Bytes) : Failure :=
  ⟨cause, rest, true⟩

/-- A fault seen at the next byte, which counts as taken if there is one. -/
def here (cause : Cause) (rest : Bytes) : Failure :=
  ⟨cause, rest.tail, true⟩

/-- A fault of shape that has no place yet. -/
def unplaced (shape : Mismatch) (rest : Bytes) : Failure :=
  ⟨.mismatch shape, rest, false⟩

/-- The enclosing reader goes on to `rest` and gives a fault without place that place. -/
def placeAt (failure : Failure) (rest : Bytes) : Failure :=
  if failure.placed then failure else ⟨failure.cause, rest, true⟩

end Failure

/-- A place is a line, counted from one, and the number of bytes of that line before it. -/
structure Position where
  line : Nat
  column : Nat

/-- The place after the given bytes. -/
def Position.after (taken : Bytes) : Position :=
  ⟨1 + taken.count 10, (taken.reverse.takeWhile (· != 10)).length⟩

/-- The wording of a refusal of `input`.  An ill-formed string is reported where its first bad
byte would stand if the string were written without escapes. -/
def Failure.message (input : Bytes) (failure : Failure) : String :=
  if failure.placed then
    let position := Position.after (input.take (input.length - failure.rest.length))
    let column := match failure.cause with
      | .invalidCodePoint unread => position.column - unread
      | _ => position.column
    s!"{failure.cause.message} at line {position.line} column {column}"
  else failure.cause.message

end RpcDispatch.Json
