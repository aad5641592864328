/-
This file defines the messages of the protocol and the text that each one is sent as.
-/

import RpcDispatch.Rpc.Error
import RpcDispatch.Rpc.Id

namespace RpcDispatch.Rpc

/-- The version that every message declares. -/
def version : String := "2.0"

/-- A request as a client writes it. -/
structure Message where
  jsonrpc : String
  method : String
  params : Json.Value
  id : Id

namespace Message

/-- A request of the supported version. -/
def request (method : String) (params : Json.Value) (id : Id) : Message :=
  ⟨version, method, params, id⟩

/-- Null params and an absent identifier are left out. -/
def chars (message : Message) : List Char :=
  Json.objectChars (
    [Json.memberChars "jsonrpc" (Json.stringChars message.jsonrpc),
      Json.memberChars "method" (Json.stringChars message.method)]
    ++ (if message.params.isNull then [] else [Json.memberChars "params" message.params.chars])
    ++ (if message.id.isEmpty then [] else [Json.memberChars "id" message.id.toValue.chars]))

/-- The text of a request. -/
def text (message : Message) : String :=
  String.ofList message.chars

/-- The fields of a request that have been read. -/
structure Draft where
  jsonrpc : Option String := none
  method : Option String := none
  params : Option Json.Value := none
  id : Option Id := none

def record : Json.Record Draft Message where
  title := "struct RequestMessage"
  fields := [
    { name := "jsonrpc"
      isSet := (·.jsonrpc.isSome)
      decoder := .map (fun text draft => { draft with jsonrpc := some text }) .string
      hasDefault := false },
    { name := "method"
      isSet := (·.method.isSome)
      decoder := .map (fun text draft => { draft with method := some text }) .string
      hasDefault := false },
    { name := "params"
      isSet := (·.params.isSome)
      decoder := .map (fun value draft => { draft with params := some value }) .value
      hasDefault := true },
    { name := "id"
      isSet := (·.id.isSome)
      decoder := .map (fun id draft => { draft with id := some id }) Id.decoder
      hasDefault := true }]
  empty := {}
  build draft := do
    let jsonrpc ← Json.required "jsonrpc" draft.jsonrpc
    let method ← Json.required "method" draft.method
    return ⟨jsonrpc, method, draft.params.getD .null, draft.id.getD .absent⟩

def decoder : Json.Decoder Message :=
  record.decoder

end Message

/-- The text of a successful answer. -/
def replyText (id : Id) (result : Json.Value) : String :=
  String.ofList (Json.objectChars [
    Json.memberChars "jsonrpc" (Json.stringChars version),
    Json.memberChars "id" id.toValue.chars,
    Json.memberChars "result" result.chars])

/-- The text of an error answer. -/
def errorText (id : Id) (error : Error) : String :=
  String.ofList (Json.objectChars [
    Json.memberChars "jsonrpc" (Json.stringChars version),
    Json.memberChars "id" id.toValue.chars,
    Json.memberChars "error" (ErrorPayload.ofError error).chars])

/-- An amount of progress lies between zero and one, unless it is not a number. -/
def clampAmount (amount : Float) : Float :=
  if amount < 0 then 0 else if 1 < amount then 1 else amount

/-- The text of a progress message. -/
def progressText (id : Id) (operation : String) (amount : Float) : String :=
  String.ofList (Json.objectChars [
    Json.memberChars "jsonrpc" (Json.stringChars version),
    Json.memberChars "method" (Json.stringChars "progress"),
    Json.memberChars "params" (Json.objectChars [
      Json.memberChars "id" id.toValue.chars,
      Json.memberChars "operation" (Json.stringChars operation),
      Json.memberChars "amount" (Json.floatChars (clampAmount amount).toBits)])])

end RpcDispatch.Rpc
