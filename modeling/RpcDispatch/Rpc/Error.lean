/-
This file defines the errors that clients receive.  Every error has a fixed code, a message, and
for faults of shape a list of violations.
-/

import RpcDispatch.Json.Decoder

namespace RpcDispatch.Rpc

/-- A rule of a schema that the value at some path breaks. -/
structure Violation where
  path : String
  message : String
  deriving DecidableEq, Inhabited

namespace Violation

def toValue (violation : Violation) : Json.Value :=
  .ofMembers [("path", .string violation.path), ("message", .string violation.message)]

/-- The fields of a violation that have been read. -/
structure Draft where
  path : Option String := none
  message : Option String := none

def record : Json.Record Draft Violation where
  title := "struct ValidationError"
  fields := [
    { name := "path"
      isSet := (·.path.isSome)
      decoder := .map (fun text draft => { draft with path := some text }) .string
      hasDefault := false },
    { name := "message"
      isSet := (·.message.isSome)
      decoder := .map (fun text draft => { draft with message := some text }) .string
      hasDefault := false }]
  empty := {}
  build draft := do
    let path ← Json.required "path" draft.path
    let message ← Json.required "message" draft.message
    return ⟨path, message⟩

/-- The written form keeps the order of the fields. -/
def chars (violation : Violation) : List Char :=
  Json.objectChars [
    Json.memberChars "path" (Json.stringChars violation.path),
    Json.memberChars "message" (Json.stringChars violation.message)]

end Violation

inductive Error where
  | parsing (message : String)
  | invalidRequest (message : String) (violations : List Violation)
  | methodNotFound (method : String)
  | invalidParams (message : String) (violations : List Violation)
  | internal (message : String)
  | taskCancelled
  deriving DecidableEq, Inhabited

namespace Error

def code : Error → Int
  | .parsing _ => -32700
  | .invalidRequest _ _ => -32600
  | .methodNotFound _ => -32601
  | .invalidParams _ _ => -32602
  | .internal _ => -32603
  | .taskCancelled => 1

def message : Error → String
  | .parsing message => message
  | .invalidRequest message _ => message
  | .methodNotFound method => s!"Method '{method}' not found"
  | .invalidParams message _ => message
  | .internal message => message
  | .taskCancelled => "Task cancelled"

def violations : Error → List Violation
  | .invalidRequest _ violations => violations
  | .invalidParams _ violations => violations
  | _ => []

/-- A request whose envelope breaks the schema. -/
def requestSchema (violations : List Violation) : Error :=
  .invalidRequest "Invalid request schema" violations

/-- Params that break the schema of their method. -/
def paramsSchema (violations : List Violation) : Error :=
  .invalidParams "Invalid params schema" violations

/-- The violations, if there are any. -/
def data (error : Error) : Option Json.Value :=
  if error.violations.isEmpty then none
  else some (.array (error.violations.map Violation.toValue))

end Error

/-- The error object inside an answer. -/
structure ErrorPayload where
  code : Int
  message : String
  data : Option Json.Value

namespace ErrorPayload

def ofError (error : Error) : ErrorPayload :=
  ⟨error.code, error.message, error.data⟩

/-- An absent `data` is left out. -/
def chars (payload : ErrorPayload) : List Char :=
  Json.objectChars
    (Json.memberChars "code" (Json.integerChars payload.code)
      :: Json.memberChars "message" (Json.stringChars payload.message)
      :: (payload.data.map fun data => Json.memberChars "data" data.chars).toList)

/-- The fields of a payload that have been read. -/
structure Draft where
  code : Option Int := none
  message : Option String := none
  data : Option (Option Json.Value) := none

def record : Json.Record Draft ErrorPayload where
  title := "struct ErrorPayload"
  fields := [
    { name := "code"
      isSet := (·.code.isSome)
      decoder := .map (fun code draft => { draft with code := some code }) .signed64
      hasDefault := false },
    { name := "message"
      isSet := (·.message.isSome)
      decoder := .map (fun text draft => { draft with message := some text }) .string
      hasDefault := false },
    { name := "data"
      isSet := (·.data.isSome)
      decoder := .map (fun data draft => { draft with data := some data }) (.option .value)
      hasDefault := true }]
  empty := {}
  build draft := do
    let code ← Json.required "code" draft.code
    let message ← Json.required "message" draft.message
    return ⟨code, message, draft.data.join⟩

end ErrorPayload

end RpcDispatch.Rpc
