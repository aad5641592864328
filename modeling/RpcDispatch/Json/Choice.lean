/-
This file reads values of types with variants.  The variant is a name of its own or stands in a
field beside the other fields.
-/

import RpcDispatch.Json.Decoder

namespace RpcDispatch.Json

/-! ### Names -/

/-- The name after the brace of an object that has one member. -/
def readSingleName {α : Type} (variant : Decoder α) (fuel depth : Nat) (input : Bytes) :
    Except Failure (α × Bytes) :=
  match skipBlanks input with
  | [] => .error (.here .endOfObject [])
  | 34 :: rest => variant.ofText fuel depth (34 :: rest)
  | 125 :: rest => .error (.here .expectedValue (125 :: rest))
  | rest => .error (.here .keyNotString rest)

/-- What follows the brace of an object that names a variant without fields. -/
def readNamedUnit {α : Type} (variant : Decoder α) (fuel depth : Nat) (input : Bytes) :
    Except Failure (α × Bytes) := do
  let (value, rest) ← readSingleName variant fuel depth input
  let ((), rest) ← readColon rest
  let ((), rest) ← Decoder.unit.ofText fuel depth rest
  match skipBlanks rest with
  | [] => .error (.here .endOfObject [])
  | 125 :: rest => .ok (value, rest)
  | rest => .error (.after .expectedValue rest)

/-- One of a few names, as a text or as the only name of an object whose value is null. -/
def Decoder.choice {α : Type} (variants : List (String × α)) : Decoder α where
  ofText fuel depth input :=
    let input := skipBlanks input
    match Lead.ofInput input, depth with
    | .absent, _ => .error (.here .endOfValue input)
    | .quote, _ => (Decoder.variant variants).ofText fuel depth input
    | .brace, depth + 1 => readNamedUnit (.variant variants) fuel depth input.tail
    | .brace, 0 => .error (.here .tooDeep input)
    | _, _ => .error (.here .expectedValue input)
  ofValue
    | .object [(name, value)] => do
      let variant ← (Decoder.variant variants).ofValue (.string name)
      let () ← Decoder.unit.ofValue value
      return variant
    | .object _ => .error (.wrongType "map" "map with a single key")
    | .string name => (Decoder.variant variants).ofValue (.string name)
    | value => .error (value.wrongType "string or map")

/-! ### Tags -/

/-- A variant with fields, which are read when its name is known. -/
structure Variant (α : Type) where
  ofItems : List Value → Except Mismatch α
  ofMembers : List (String × Value) → Except Mismatch α

/-- The variant whose fields are those of a record. -/
def Record.variant {δ α : Type} (record : Record δ α) : Variant α where
  ofItems := record.ofItems (counted record.fields.length "element" ++ " in sequence")
  ofMembers := record.ofMembers

/-- A type whose variants are named in the field `tag`, or in the first item of an array. -/
structure Tagged (α : Type) where
  title : String
  tag : String
  variants : List (String × Variant α)

namespace Tagged

variable {α : Type}

/-- The members of an object, with the variant that one of them names. -/
def readNamed (tagged : Tagged α) (fuel depth : Nat) :
    (members : Nat) → (first : Bool) → Option (Variant α) → (reversed : List (String × Value)) →
    Reader (Option (Variant α) × List (String × Value))
  | 0, _, _, _, input => .error (.here .endOfObject input)
  | members + 1, first, found, reversed, input =>
    match nextMember first input with
    | .error failure => .error failure
    | .ok (false, rest) => .ok ((found, reversed.reverse), rest)
    | .ok (true, rest) =>
      match readString rest with
      | .error failure => .error failure
      | .ok (name, rest) =>
        if name = tagged.tag then
          if found.isSome then .error (.unplaced (.duplicateField name) rest)
          else
            match readColon rest with
            | .error failure => .error failure
            | .ok ((), rest) =>
              match (Decoder.variant tagged.variants).ofText fuel depth rest with
              | .error failure => .error failure
              | .ok (variant, rest) =>
                tagged.readNamed fuel depth members false (some variant) reversed rest
        else
          match readColon rest with
          | .error failure => .error failure
          | .ok ((), rest) =>
            match readValue fuel depth rest with
            | .error failure => .error failure
            | .ok (value, rest) =>
              tagged.readNamed fuel depth members false found ((name, value) :: reversed) rest

/-- The variant that the first item of an array names, and the other items. -/
def readInOrder (tagged : Tagged α) (fuel depth : Nat) (input : Bytes) :
    Except Failure ((Option (Variant α) × List Value) × Bytes) :=
  match nextItem true input with
  | .error failure => .error failure
  | .ok (false, rest) => .ok ((none, []), rest)
  | .ok (true, rest) =>
    match (Decoder.variant tagged.variants).ofText fuel depth rest with
    | .error failure => .error failure
    | .ok (variant, rest) =>
      match readLater fuel depth fuel [] rest with
      | .error failure => .error failure
      | .ok (items, rest) => .ok ((some variant, items), rest)
where
  /-- The items after the first one. -/
  readLater (fuel depth : Nat) : (items : Nat) → (reversed : List Value) → Reader (List Value)
    | 0, _, input => .error (.here .endOfList input)
    | items + 1, reversed, input =>
      match nextItem false input with
      | .error failure => .error failure
      | .ok (false, rest) => .ok (reversed.reverse, rest)
      | .ok (true, rest) =>
        match readValue fuel depth rest with
        | .error failure => .error failure
        | .ok (item, rest) => readLater fuel depth items (item :: reversed) rest

/-- Builds the value when its container has been closed.  From there on a fault has no place. -/
def finish {β : Type} (tagged : Tagged α) (build : Variant α → β → Except Mismatch α)
    (after : Bytes → Bytes) (result : Except Failure ((Option (Variant α) × β) × Bytes)) :
    Except Failure (α × Bytes) :=
  match result with
  | .error failure => .error (failure.placeAt (after failure.rest))
  | .ok ((none, _), rest) =>
    .error ((Failure.unplaced (.missingField tagged.tag) rest).placeAt (after rest))
  | .ok ((some variant, fields), rest) =>
    match build variant fields with
    | .ok value => .ok (value, after rest)
    | .error shape => .error (.unplaced shape (after rest))

def ofText (tagged : Tagged α) (fuel depth : Nat) (input : Bytes) :
    Except Failure (α × Bytes) :=
  let input := skipBlanks input
  match Lead.ofInput input, depth with
  | .absent, _ => .error (.here .endOfValue input)
  | .bracket, depth + 1 =>
    tagged.finish Variant.ofItems Record.afterArray (tagged.readInOrder fuel depth input.tail)
  | .brace, depth + 1 =>
    tagged.finish Variant.ofMembers Record.afterObject
      (tagged.readNamed fuel depth fuel true none [] input.tail)
  | .bracket, 0 | .brace, 0 => .error (.here .tooDeep input)
  | _, _ => .error (readWrongType tagged.title fuel input)

/-- The variant that a value names, and its other fields. -/
def ofValue (tagged : Tagged α) : Value → Except Mismatch α
  | .array [] => .error (.missingField tagged.tag)
  | .array (name :: items) => do
    (← (Decoder.variant tagged.variants).ofValue name).ofItems items
  | .object members =>
    match members.lookup tagged.tag with
    | none => .error (.missingField tagged.tag)
    | some name => do
      (← (Decoder.variant tagged.variants).ofValue name).ofMembers
        (members.filter (·.1 != tagged.tag))
  | value => .error (value.wrongType tagged.title)

def decoder (tagged : Tagged α) : Decoder α where
  ofText := tagged.ofText
  ofValue := tagged.ofValue

end Tagged

end RpcDispatch.Json
