/-
This file reads typed values.  A decoder takes them from text, where a refusal has a place, and
from values that have been read before.
-/

import RpcDispatch.Json.Printer
import RpcDispatch.Json.Reader
import RpcDispatch.Json.Skip
import RpcDispatch.Text.Quoted

namespace RpcDispatch.Json

/-- The description of a value in messages. -/
def Value.kind : Value → String
  | .null => "null"
  | .bool value => "boolean " ++ graveQuoted (String.ofList (boolChars value))
  | .number (.integer value) => "integer " ++ graveQuoted (Number.integer value).text
  | .number (.float bits) => "floating point " ++ graveQuoted (Number.float bits).text
  | .string text => "string " ++ Text.quoted text
  | .array _ => "sequence"
  | .object _ => "map"

def Value.wrongType (value : Value) (expected : String) : Mismatch :=
  .wrongType value.kind expected

structure Decoder (α : Type) where
  ofText : (fuel depth : Nat) → Reader α
  ofValue : Value → Except Mismatch α

/-- A container that a decoder has no use for is refused before its bracket, another value after
its end. -/
def readWrongType (expected : String) (fuel : Nat) (input : Bytes) : Failure :=
  match Lead.ofInput input with
  | .bracket => ⟨.mismatch ((Value.array []).wrongType expected), input, true⟩
  | .brace => ⟨.mismatch ((Value.object []).wrongType expected), input, true⟩
  | _ =>
    match readValueWith fuel none input with
    | .error failure => failure
    | .ok (value, rest) => ⟨.mismatch (value.wrongType expected), rest, true⟩

namespace Decoder

/-- A decoder of values that are no containers. -/
def scalar {α : Type} (expected : String) (take : Value → Except Mismatch α) : Decoder α where
  ofText fuel _ input :=
    let input := skipBlanks input
    match Lead.ofInput input with
    | .absent => .error (.here .endOfValue input)
    | .bracket | .brace => .error (readWrongType expected fuel input)
    | _ =>
      match readValueWith fuel none input with
      | .error failure => .error failure
      | .ok (value, rest) =>
        match take value with
        | .ok result => .ok (result, rest)
        | .error shape => .error ⟨.mismatch shape, rest, true⟩
  ofValue := take

def string : Decoder String :=
  scalar "a string" fun
    | .string text => .ok text
    | value => .error (value.wrongType "a string")

def bool : Decoder Bool :=
  scalar "a boolean" fun
    | .bool value => .ok value
    | value => .error (value.wrongType "a boolean")

def unit : Decoder Unit :=
  scalar "unit" fun
    | .null => .ok ()
    | value => .error (value.wrongType "unit")

/-- Integers between two bounds. -/
def integer (least greatest : Int) (typeName : String) : Decoder Int :=
  scalar typeName fun
    | .number (.integer value) =>
      if least ≤ value ∧ value ≤ greatest then .ok value
      else .error (.outOfRange value typeName)
    | value => .error (value.wrongType typeName)

def signed64 : Decoder Int :=
  integer (-0x8000000000000000) 0x7FFFFFFFFFFFFFFF "i64"

/-- One of a few names. -/
def variant {α : Type} (variants : List (String × α)) : Decoder α :=
  scalar "variant identifier" fun
    | .string name =>
      match variants.lookup name with
      | some value => .ok value
      | none => .error (.unknownVariant name (variants.map Prod.fst))
    | value => .error (value.wrongType "variant identifier")

def value : Decoder Value where
  ofText := readValue
  ofValue := .ok

/-- A value that may be null. -/
def option {α : Type} (decoder : Decoder α) : Decoder (Option α) where
  ofText fuel depth input :=
    let input := skipBlanks input
    match Lead.ofInput input with
    | .nullWord => (readNull input).map fun (_, rest) => (none, rest)
    | _ => (decoder.ofText fuel depth input).map fun (result, rest) => (some result, rest)
  ofValue
    | .null => .ok none
    | value => (decoder.ofValue value).map some

/-- A value of a type whose variants are told apart by their form. -/
def untagged {α : Type} (typeName : String) (take? : Value → Option α) : Decoder α where
  ofText fuel depth input :=
    match readValue fuel depth input with
    | .error failure => .error failure
    | .ok (value, rest) =>
      match take? value with
      | some result => .ok (result, rest)
      | none => .error (.unplaced (.noVariant typeName) rest)
  ofValue value :=
    match take? value with
    | some result => .ok result
    | none => .error (.noVariant typeName)

def map {α β : Type} (convert : α → β) (decoder : Decoder α) : Decoder β where
  ofText fuel depth input :=
    (decoder.ofText fuel depth input).map fun (result, rest) => (convert result, rest)
  ofValue value := (decoder.ofValue value).map convert

/-- The typed value of a whole text. -/
def ofBytes {α : Type} (decoder : Decoder α) (input : Bytes) : Except Failure α :=
  readDocument (decoder.ofText (input.length + 1) maxDepth) input

end Decoder

/-! ### Records -/

/-- A field of a record whose draft has type `δ`. -/
structure Field (δ : Type) where
  name : String
  isSet : δ → Bool
  decoder : Decoder (δ → δ)
  /-- An array may end before a field that has a default. -/
  hasDefault : Bool

/-- A record is read into a draft, from the members of an object in any order or from the items of
an array in the order of the fields. -/
structure Record (δ α : Type) where
  title : String
  fields : List (Field δ)
  empty : δ
  build : δ → Except Mismatch α

/-- A field without default has to be set. -/
def required {α : Type} (name : String) : Option α → Except Mismatch α
  | some value => .ok value
  | none => .error (.missingField name)

/-- A count of things in messages. -/
def counted (count : Nat) (singular : String) : String :=
  if count = 1 then "1 " ++ singular else toString count ++ " " ++ singular ++ "s"

namespace Record

variable {δ α : Type}

def tooShort (record : Record δ α) (length : Nat) : Mismatch :=
  .wrongLength length (record.title ++ " with " ++ counted record.fields.length "element")

def field? (record : Record δ α) (name : String) : Option (Field δ) :=
  record.fields.find? (·.name == name)

/-! #### From values -/

/-- Gives the items to the fields in order and leaves the items that no field takes. -/
def takeItems (record : Record δ α) (index : Nat) :
    List (Field δ) → List Value → δ → Except Mismatch (δ × List Value)
  | [], items, draft => .ok (draft, items)
  | field :: fields, [], draft =>
    if field.hasDefault then record.takeItems index fields [] draft
    else .error (record.tooShort index)
  | field :: fields, item :: items, draft =>
    match field.decoder.ofValue item with
    | .error shape => .error shape
    | .ok set => record.takeItems (index + 1) fields items (set draft)

/-- The record in an array, where `surplus` words the refusal of more items than fields. -/
def ofItems (record : Record δ α) (surplus : String) (items : List Value) : Except Mismatch α :=
  match record.takeItems 0 record.fields items record.empty with
  | .error shape => .error shape
  | .ok (draft, []) => record.build draft
  | .ok (_, _ :: _) => .error (.wrongLength items.length surplus)

/-- Members without a field are left out. -/
def takeMember (record : Record δ α) (draft : δ) (member : String × Value) : Except Mismatch δ :=
  match record.field? member.1 with
  | none => .ok draft
  | some field =>
    if field.isSet draft then .error (.duplicateField field.name)
    else (field.decoder.ofValue member.2).map fun set => set draft

def ofMembers (record : Record δ α) (members : List (String × Value)) : Except Mismatch α :=
  match members.foldlM record.takeMember record.empty with
  | .error shape => .error shape
  | .ok draft => record.build draft

/-! #### From text -/

/-- The items of an array, one for each field. -/
def readInOrder (record : Record δ α) (fuel depth : Nat) :
    (index : Nat) → List (Field δ) → δ → Reader δ
  | _, [], draft, input => .ok (draft, input)
  | index, field :: fields, draft, input =>
    match nextItem (index == 0) input with
    | .error failure => .error failure
    | .ok (false, rest) =>
      if field.hasDefault then record.readInOrder fuel depth index fields draft rest
      else .error (.unplaced (record.tooShort index) rest)
    | .ok (true, rest) =>
      match field.decoder.ofText fuel depth rest with
      | .error failure => .error failure
      | .ok (set, rest) => record.readInOrder fuel depth (index + 1) fields (set draft) rest

/-- The members of an object. -/
def readNamed (record : Record δ α) (fuel depth : Nat) :
    (members : Nat) → (first : Bool) → δ → Reader δ
  | 0, _, _, input => .error (.here .endOfObject input)
  | members + 1, first, draft, input =>
    match nextMember first input with
    | .error failure => .error failure
    | .ok (false, rest) => .ok (draft, rest)
    | .ok (true, rest) =>
      match readString rest with
      | .error failure => .error failure
      | .ok (name, rest) =>
        match record.field? name with
        | none =>
          match readColon rest with
          | .error failure => .error failure
          | .ok ((), rest) =>
            match skipValue fuel rest with
            | .error failure => .error failure
            | .ok ((), rest) => record.readNamed fuel depth members false draft rest
        | some field =>
          if field.isSet draft then .error (.unplaced (.duplicateField field.name) rest)
          else
            match readColon rest with
            | .error failure => .error failure
            | .ok ((), rest) =>
              match field.decoder.ofText fuel depth rest with
              | .error failure => .error failure
              | .ok (set, rest) => record.readNamed fuel depth members false (set draft) rest

/-- The bytes after the bracket that ends an array, as far as the reader gets. -/
def afterArray (input : Bytes) : Bytes :=
  match skipBlanks input with
  | 93 :: rest => rest
  | 44 :: rest => skipBlanks rest
  | rest => rest

/-- The bytes after the brace that ends an object, as far as the reader gets. -/
def afterObject (input : Bytes) : Bytes :=
  match skipBlanks input with
  | 125 :: rest => rest
  | rest => rest

/-- An array ends after the last field. -/
def closeArray (input : Bytes) : Except Failure (Unit × Bytes) :=
  match skipBlanks input with
  | [] => .error (.here .endOfList [])
  | 93 :: rest => .ok ((), rest)
  | 44 :: rest =>
    match skipBlanks rest with
    | 93 :: rest => .error (.here .trailingComma (93 :: rest))
    | rest => .error (.here .trailingCharacters rest)
  | rest => .error (.here .trailingCharacters rest)

/-- Builds the record from a draft and then closes its container. -/
def finish (record : Record δ α) (close : Bytes → Except Failure (Unit × Bytes))
    (after : Bytes → Bytes) (result : Except Failure (δ × Bytes)) : Except Failure (α × Bytes) :=
  match result with
  | .error failure => .error (failure.placeAt (after failure.rest))
  | .ok (draft, rest) =>
    match record.build draft with
    | .error shape => .error ((Failure.unplaced shape rest).placeAt (after rest))
    | .ok value => (close rest).map fun (_, rest) => (value, rest)

def ofText (record : Record δ α) (fuel depth : Nat) (input : Bytes) :
    Except Failure (α × Bytes) :=
  let input := skipBlanks input
  match Lead.ofInput input, depth with
  | .absent, _ => .error (.here .endOfValue input)
  | .bracket, depth + 1 =>
    record.finish closeArray afterArray
      (record.readInOrder fuel depth 0 record.fields record.empty input.tail)
  | .brace, depth + 1 =>
    record.finish (fun rest => .ok ((), rest.tail)) afterObject
      (record.readNamed fuel depth fuel true record.empty input.tail)
  | .bracket, 0 | .brace, 0 => .error (.here .tooDeep input)
  | _, _ => .error (readWrongType record.title fuel input)

def decoder (record : Record δ α) : Decoder α where
  ofText := record.ofText
  ofValue
    | .array items => record.ofItems "fewer elements in array" items
    | .object members => record.ofMembers members
    | value => .error (value.wrongType record.title)

end Record

end RpcDispatch.Json
