/-
This file defines the directives of log filters.  A directive sets the level for the targets that
begin with a given text.
-/

import RpcDispatch.Decimal.Integer
import RpcDispatch.Decimal.Notation
import RpcDispatch.Log.Pattern
import RpcDispatch.Log.Record
import RpcDispatch.Text.Split
import RpcDispatch.Text.Utf8

namespace RpcDispatch.Log

/-- The greatest rank of the levels that pass, where zero lets none pass. -/
abbrev Threshold := Nat

namespace Threshold

def trace : Threshold := Level.trace.rank

def error : Threshold := Level.error.rank

/-- The names of the thresholds, in the order of their ranks. -/
def names : List String :=
  ["off", "error", "warn", "info", "debug", "trace"]

/-- A threshold is named or numbered.  The empty name stands for errors. -/
def parse? (text : String) : Option Threshold :=
  match Decimal.parseUnsigned 0xFFFFFFFFFFFFFFFF text with
  | .ok number => if number ≤ trace then some number else none
  | .error _ =>
    if text.isEmpty then some error
    else names.findIdx? fun name => text.toList.map Char.toLower = name.toList

end Threshold

structure Directive where
  target : String
  /-- A record has to have this field. -/
  field : Option String
  /-- A directive for spans has no say outside them. -/
  inSpan : Bool
  threshold : Threshold
  deriving DecidableEq

inductive FilterFault where
  | level
  | directive
  | field (fault : Pattern.Fault)
  deriving DecidableEq

def FilterFault.message : FilterFault → String
  | .level =>
    "error parsing level filter: expected one of \"off\", \"error\", \"warn\", "
      ++ "\"info\", \"debug\", \"trace\", or a number 0-5"
  | .directive => "invalid filter directive"
  | .field fault => "invalid field filter: " ++ fault.message

/-! ### The parts of a directive -/

/-- The bytes of a directive.  Marks are looked for without the blanks at its ends, and the parts
between them are cut out at the same places with the blanks. -/
structure Written where
  bytes : Bytes
  marked : Bytes

namespace Written

def ofText (text : String) : Written :=
  ⟨Text.Utf8.encode text, Text.Utf8.encode (Text.trim text)⟩

/-- The part from one place on, where a place is given by the bytes from there to the end. -/
def since (written : Written) (start : Bytes) : String :=
  Text.Utf8.decodeLossy (written.bytes.drop (written.marked.length - start.length))

/-- The part between two places. -/
def between (written : Written) (start stop : Bytes) : String :=
  let first := written.marked.length - start.length
  Text.Utf8.decodeLossy ((written.bytes.drop first).take (start.length - stop.length))

end Written

/-- The place of the first of some marks. -/
def seek (marks : List UInt8) (text : Bytes) : Bytes :=
  text.dropWhile fun byte => !marks.contains byte

namespace Directive

/-- The threshold after an equals sign, which may be left out. -/
def readThreshold (text : String) : Except FilterFault Threshold :=
  if text.isEmpty then .ok Threshold.trace
  else
    match Threshold.parse? text with
    | some threshold => .ok threshold
    | none => .error .level

/-- The name of a field, and whether the field has a value.  A value that is no number is a
pattern. -/
def readField (text : String) : Except FilterFault (String × Bool) :=
  if text.isEmpty then .error .directive
  else
    match Text.splitAt '=' text.toList with
    | name :: value :: _ =>
      let value := String.ofList value
      if Decimal.isNumber value then .ok (String.ofList name, true)
      else
        match Pattern.check value with
        | .ok () => .ok (String.ofList name, true)
        | .error fault => .error (.field fault)
    | _ => .ok (text, false)

/-- What follows the brackets of a directive. -/
def close (written : Written) (directive : Directive) : Bytes → Except FilterFault Directive
  | [] => .ok directive
  | 61 :: rest =>
    (readThreshold (written.since rest)).map fun threshold => { directive with threshold }
  | _ => .error .directive

/-- The rest of a directive after the opening bracket.  A span has a name, or a field with a value;
a field alone is one of records. -/
def readScope (written : Written) (target : String) (text : Bytes) :
    Except FilterFault Directive :=
  let mark := seek [93, 123] text
  let name := written.between text mark
  match mark with
  | 93 :: rest => close written ⟨target, none, true, Threshold.trace⟩ rest
  | 123 :: text =>
    match seek [125] text with
    | 125 :: rest => do
      let (field, hasValue) ← readField (written.between text (125 :: rest))
      match rest with
      | 93 :: rest =>
        close written ⟨target, some field, !name.isEmpty || hasValue, Threshold.trace⟩ rest
      | _ => .error .directive
    | _ => .error .directive
  | _ => .error .directive

/-- A directive starts with a letter, a numeral or one of three marks. -/
def isStart (character : Char) : Bool :=
  ['-', ':', '_'].contains character || Text.isLetterOrNumeral character

/-- A directive is a threshold, a target, or a target with brackets or a threshold or both.  A
target alone lets everything pass. -/
def parse (text : String) : Except FilterFault Directive :=
  let written := Written.ofText text
  match written.marked with
  | 91 :: rest => readScope written "" rest
  | marked =>
    if (Text.trim text).toList.head?.any isStart then
      let mark := seek [61, 91] marked
      let target := written.between marked mark
      match mark with
      | 61 :: rest =>
        (readThreshold (written.since rest)).map fun threshold => ⟨target, none, false, threshold⟩
      | 91 :: rest => readScope written target rest
      | _ =>
        match Threshold.parse? text with
        | some threshold => .ok ⟨"", none, false, threshold⟩
        | none => .ok ⟨text, none, false, Threshold.trace⟩
    else .error .directive

/-- Whether the directive has a say about a record.  Every record has a message. -/
def appliesTo (directive : Directive) (record : Record) : Bool :=
  !directive.inSpan && directive.target.toList.isPrefixOf record.target.name.toList
    && directive.field.all fun field =>
      field = "message" || record.fields.any fun (name, _) => name = field

/-- A longer target makes a directive more specific, then a field does, then one that comes later
in the order of texts. -/
def isAtLeast (directive other : Directive) : Bool :=
  if directive.target.utf8ByteSize = other.target.utf8ByteSize then
    match directive.field, other.field with
    | _, none => true
    | none, some _ => false
    | some field, some other => other ≤ field
  else other.target.utf8ByteSize < directive.target.utf8ByteSize

end Directive

end RpcDispatch.Log
