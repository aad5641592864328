/-
This file gives the JSON form of endpoints.
-/

import RpcDispatch.Endpoint.Basic
import RpcDispatch.Json.Choice

namespace RpcDispatch.Endpoint

def chars : Endpoint → List Char
  | .unix path =>
    Json.objectChars [
      Json.memberChars "transport" (Json.stringChars "unix"),
      Json.memberChars "path" (Json.stringChars path)]
  | .tcp host port =>
    Json.objectChars [
      Json.memberChars "transport" (Json.stringChars "tcp"),
      Json.memberChars "host" (Json.stringChars host),
      Json.memberChars "port" (Json.integerChars port.toNat)]

/-- The fields of an endpoint that have been read. -/
structure Draft where
  path : Option String := none
  host : Option String := none
  port : Option UInt16 := none

/-- A path has to be a text. -/
def pathDecoder : Json.Decoder String :=
  .scalar "a UTF-8 path string" fun
    | .string path => .ok path
    | value => .error (value.wrongType "a UTF-8 path string")

def unixRecord : Json.Record Draft Endpoint where
  title := "struct variant SocketEndpoint::Unix"
  fields := [
    { name := "path"
      isSet := (·.path.isSome)
      decoder := .map (fun path draft => { draft with path := some path }) pathDecoder
      hasDefault := false }]
  empty := {}
  build draft := do return .unix (← Json.required "path" draft.path)

def tcpRecord : Json.Record Draft Endpoint where
  title := "struct variant SocketEndpoint::Tcp"
  fields := [
    { name := "host"
      isSet := (·.host.isSome)
      decoder := .map (fun host draft => { draft with host := some host }) .string
      hasDefault := false },
    { name := "port"
      isSet := (·.port.isSome)
      decoder := .map (fun port draft => { draft with port := some (UInt16.ofNat port.toNat) })
        (.integer 0 65535 "u16")
      hasDefault := false }]
  empty := {}
  build draft := do
    return .tcp (← Json.required "host" draft.host) (← Json.required "port" draft.port)

/-- The field `transport` tells the two kinds of endpoint apart. -/
def decoder : Json.Decoder Endpoint :=
  Json.Tagged.decoder {
    title := "internally tagged enum SocketEndpoint"
    tag := "transport"
    variants := [("unix", unixRecord.variant), ("tcp", tcpRecord.variant)] }

end RpcDispatch.Endpoint
