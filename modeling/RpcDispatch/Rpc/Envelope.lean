/-
This file turns payloads into requests.  A payload that is no request is rejected with an error
and the identifier that could be read, so that the client can tell which request failed.
-/

import RpcDispatch.Rpc.Message
import RpcDispatch.Rpc.Payload

namespace RpcDispatch.Rpc

/-- A request with the raw bytes that came with it. -/
structure Envelope where
  message : Message
  binary : Bytes

/-- Why a payload is no request. -/
inductive Refusal where
  | framing (fault : SplitFault)
  | json (message : String)
  | schema (violations : List Violation)
  | undecodable (shape : Json.Mismatch)
  | unsupportedVersion (found : String)
  | emptyMethod
  deriving DecidableEq

def Refusal.error : Refusal → Error
  | .framing fault => .parsing fault.message
  | .json message => .parsing ("Failed to parse JSON request: " ++ message)
  | .schema violations => .requestSchema violations
  | .undecodable shape => .invalidRequest shape.message []
  | .unsupportedVersion found =>
    .invalidRequest s!"Unsupported JSON-RPC version '{found}', expected '{version}'" []
  | .emptyMethod => .invalidRequest "Method must not be empty" []

structure Rejection where
  id : Id
  refusal : Refusal

def Rejection.error (rejection : Rejection) : Error :=
  rejection.refusal.error

/-- The identifier of a value that may not be a request; anything else counts as absent. -/
def recoverId (value : Json.Value) : Id :=
  ((value.get? "id").bind Id.ofValue?).getD .absent

/-- A member that has to be a text. -/
def requireText (members : List (String × Json.Value)) (name : String) : List Violation :=
  match members.lookup name with
  | none => [⟨"/" ++ name, "missing required property"⟩]
  | some (.string _) => []
  | some _ => [⟨"/" ++ name, "expected string"⟩]

/-- The forms of an identifier: null, a text, and an integer of 64 bits with sign. -/
def isIdentifier : Json.Value → Bool
  | .null => true
  | .string _ => true
  | .number (.integer value) => -0x8000000000000000 ≤ value && value < 0x8000000000000000
  | _ => false

/-- The identifier may be left out. -/
def checkId (members : List (String × Json.Value)) : List Violation :=
  match members.lookup "id" with
  | none => []
  | some value =>
    if isIdentifier value then [] else [⟨"/id", "expected integer, string or null"⟩]

/-- The violations of the request schema. -/
def violationsOf : Json.Value → List Violation
  | .object members =>
    requireText members "jsonrpc" ++ requireText members "method" ++ checkId members
  | _ => [⟨"", "request must be a JSON object"⟩]

/-- The version and method of a well-formed request. -/
def checkHeader (message : Message) : Except Refusal Unit :=
  if message.jsonrpc ≠ version then .error (.unsupportedVersion message.jsonrpc)
  else if message.method.isEmpty then .error .emptyMethod
  else .ok ()

/-- The request that a JSON value is. -/
def Message.ofValue (value : Json.Value) : Except Refusal Message :=
  match violationsOf value with
  | [] =>
    match Message.decoder.ofValue value with
    | .error shape => .error (.undecodable shape)
    | .ok message => (checkHeader message).map fun _ => message
  | violations => .error (.schema violations)

/-- The request in a payload. -/
def Envelope.parse (payload : Bytes) (framing : Framing) : Except Rejection Envelope :=
  match split payload framing with
  | .error fault => .error ⟨.absent, .framing fault⟩
  | .ok parts =>
    match Json.Value.ofBytes parts.json with
    | .error failure => .error ⟨.absent, .json (failure.message parts.json)⟩
    | .ok value =>
      match Message.ofValue value with
      | .error refusal => .error ⟨recoverId value, refusal⟩
      | .ok message => .ok ⟨message, parts.tail⟩

end RpcDispatch.Rpc
