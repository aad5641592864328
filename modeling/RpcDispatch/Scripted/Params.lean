/-
This file defines the types that scripted entrypoints can read their params as.  Reading params
as a type and writing the result gives the normal form of the params.
-/

import RpcDispatch.Rpc.Message

namespace RpcDispatch.Scripted

/-- A shape has a name and a width, and may say whether it is visible. -/
structure Shape where
  name : String
  width : Int
  visible : Option Bool

namespace Shape

def toValue (shape : Shape) : Json.Value :=
  .ofMembers [("name", .string shape.name), ("width", .integer shape.width),
    ("visible", (shape.visible.map Json.Value.bool).getD .null)]

/-- The fields of a shape that have been read. -/
structure Draft where
  name : Option String := none
  width : Option Int := none
  visible : Option (Option Bool) := none

def record : Json.Record Draft Shape where
  title := "struct Shape"
  fields := [
    { name := "name"
      isSet := (·.name.isSome)
      decoder := .map (fun text draft => { draft with name := some text }) .string
      hasDefault := false },
    { name := "width"
      isSet := (·.width.isSome)
      decoder := .map (fun width draft => { draft with width := some width })
        (.integer 0 0xFFFFFFFF "u32")
      hasDefault := false },
    { name := "visible"
      isSet := (·.visible.isSome)
      decoder := .map (fun visible draft => { draft with visible := some visible })
        (.option .bool)
      hasDefault := true }]
  empty := {}
  build draft := do
    let name ← Json.required "name" draft.name
    let width ← Json.required "width" draft.width
    return ⟨name, width, draft.visible.join⟩

end Shape

inductive ParamsType where
  | shape
  | signed64
  | unsigned8
  | bool
  | string
  | strings
  | map
  | id
  | message
  | unit
  deriving DecidableEq

/-- The object form of a request. -/
def messageValue (message : Rpc.Message) : Json.Value :=
  .ofMembers (
    [("jsonrpc", .string message.jsonrpc), ("method", .string message.method)]
    ++ (if message.params.isNull then [] else [("params", message.params)])
    ++ (if message.id.isEmpty then [] else [("id", message.id.toValue)]))

/-- The normal form of a value that is read as a type. -/
def ParamsType.normalize (type : ParamsType) (value : Json.Value) :
    Except Json.Mismatch Json.Value :=
  match type with
  | .shape => (Shape.record.decoder.ofValue value).map Shape.toValue
  | .signed64 => (Json.Decoder.signed64.ofValue value).map Json.Value.integer
  | .unsigned8 => ((Json.Decoder.integer 0 255 "u8").ofValue value).map Json.Value.integer
  | .bool => (Json.Decoder.bool.ofValue value).map Json.Value.bool
  | .string => (Json.Decoder.string.ofValue value).map Json.Value.string
  | .strings =>
    match value with
    | .array items =>
      (items.mapM Json.Decoder.string.ofValue).map fun texts =>
        .array (texts.map Json.Value.string)
    | value => .error (value.wrongType "a sequence")
  | .map =>
    match value with
    | .object members =>
      (members.mapM fun (member : String × Json.Value) =>
        (Json.Decoder.signed64.ofValue member.2).map fun number =>
          (member.1, Json.Value.integer number)).map Json.Value.object
    | value => .error (value.wrongType "a map")
  | .id => (Rpc.Id.decoder.ofValue value).map Rpc.Id.toValue
  | .message => (Rpc.Message.decoder.ofValue value).map messageValue
  | .unit => (Json.Decoder.unit.ofValue value).map fun _ => .null

end RpcDispatch.Scripted
