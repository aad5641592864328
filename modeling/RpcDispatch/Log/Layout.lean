/-
This file writes records of the log in either format.  What stands before a record, such as the
time, is not part of it.
-/

import RpcDispatch.Log.Filter
import RpcDispatch.Log.Format

namespace RpcDispatch.Log

/-! ### JSON -/

def Field.toValue : Field → Json.Value
  | .shown text => .string text
  | .plain text => .string text
  | .integer value => .integer value
  | .flag value => .bool value

/-- The fields of a record stand beside its own members. -/
def Record.toValue (thread : String) (record : Record) : Json.Value :=
  .ofMembers ([("level", .string record.level.name), ("message", .string record.message),
    ("target", .string record.target.name), ("threadName", .string thread)]
    ++ record.fields.map fun (name, field) => (name, field.toValue))

/-! ### Lines -/

/-- A plain text is quoted. -/
def Field.inLine : Field → String
  | .plain text => Text.quoted text
  | field => field.text

/-- A name with blanks before it, up to a width. -/
def aligned (width : Nat) (name : String) : String :=
  String.ofList (List.replicate (width - name.length) ' ') ++ name

/-- A record on a line of its own, where names of threads have the given width. -/
def Record.line (width : Nat) (thread : String) (record : Record) : String :=
  let fields := record.fields.map fun (name, field) => s!" {name}={field.inLine}"
  s!"{aligned 5 record.level.name} {aligned width thread} {record.target.name}: {record.message}"
    ++ String.join fields

/-! ### The log of the program -/

/-- The first filter that can be read decides what is written, and in which format.  Lines align
the names of threads with the longest one written so far. -/
structure Setup where
  filter : Filter
  format : Format
  threadWidth : Nat

/-- Sets the log up, unless that has been done. -/
def Setup.initialise (installed : Option Setup) (filter : String) (format : Format) :
    Except FilterFault Setup :=
  match installed with
  | some setup => .ok setup
  | none => (Filter.parse filter).map fun filter => ⟨filter, format, 0⟩

/-- The line that a record adds to the log, if it passes, and the log after it. -/
def Setup.write (setup : Setup) (thread : String) (record : Record) : Option String × Setup :=
  if setup.filter.passes record then
    match setup.format with
    | .json => (some (record.toValue thread).text, setup)
    | .compact =>
      let width := max setup.threadWidth thread.length
      (some (record.line width thread), { setup with threadWidth := width })
  else (none, setup)

end RpcDispatch.Log
