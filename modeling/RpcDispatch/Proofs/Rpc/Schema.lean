import RpcDispatch.Proofs.Rpc.Envelope
import RpcDispatch.Proofs.Rpc.RoundTrip

/-
This file says that the schema of requests allows exactly the objects that are decoded as requests,
so that what has passed the schema is always decoded.  The decoder alone also takes arrays, and it
is said which ones.
-/

namespace RpcDispatch.Rpc

/-! ### Objects -/

/-- The identifier that a value has is the one that is recovered from it. -/
theorem Identifies.recoverId_eq {value : Json.Value} {id : Id}
    (identifies : Identifies (value.get? "id") id) : recoverId value = id := by
  have recovers := recovers_recoverId value
  generalize recoverId value = recovered at recovers ⊢
  cases recovers with
  | own own => exact identifies_unique own identifies
  | none other => exact absurd identifies (other id)

/-- No identifier is recovered from what is no object. -/
theorem recoverId_noObject {value : Json.Value} (other : ∀ members, value ≠ .object members) :
    recoverId value = .absent := by
  cases value with
  | object members => exact absurd rfl (other members)
  | null | bool | number | string | array => rfl

/-- What is no object has one violation, at the root. -/
theorem violationsOf_noObject {value : Json.Value} (other : ∀ members, value ≠ .object members) :
    violationsOf value = [⟨"", "request must be a JSON object"⟩] := by
  cases value with
  | object members => exact absurd rfl (other members)
  | null | bool | number | string | array => rfl

section

variable {members : List (String × Json.Value)} (sorted : Json.Sorted members)

include sorted

/-- An object has no violations exactly when it is decoded. -/
theorem violationsOf_eq_nil_iff_decodes :
    violationsOf (.object members) = [] ↔
      ∃ message, Message.decoder.ofValue (.object members) = .ok message := by
  simp only [violationsOf_eq_nil, Message.decoder_eq_ok sorted]

/-- A decoded request has the identifier that is recovered without decoding it. -/
theorem id_eq_recoverId {message : Message}
    (decoded : Message.decoder.ofValue (.object members) = .ok message) :
    message.id = recoverId (.object members) := by
  have describes := (Message.decoder_eq_ok sorted).mp decoded
  have identifies : Identifies ((Json.Value.object members).get? "id") message.id := describes.id
  exact identifies.recoverId_eq.symm

end

/-! ### Payloads -/

/-- A header is never refused as undecodable. -/
theorem checkHeader_ne_undecodable (message : Message) (shape : Json.Mismatch) :
    checkHeader message ≠ .error (.undecodable shape) := by
  unfold checkHeader
  split
  · nofun
  · split <;> nofun

/-- What has no violations can be decoded. -/
theorem ofValue_ne_undecodable {value : Json.Value} (ordered : Ordered value)
    (shape : Json.Mismatch) : Message.ofValue value ≠ .error (.undecodable shape) := by
  intro read
  by_cases lawful : violationsOf value = []
  · by_cases object : ∃ members, value = .object members
    · obtain ⟨members, rfl⟩ := object
      have sorted := ordered members rfl
      obtain ⟨message, describes⟩ := violationsOf_eq_nil.mp lawful
      rw [ofValue_describes sorted describes] at read
      cases checked : checkHeader message with
      | ok _ =>
          rw [checked] at read
          cases read
      | error refusal =>
          rw [checked] at read
          cases read
          exact checkHeader_ne_undecodable message shape checked
    · rw [violationsOf_noObject fun members same => object ⟨members, same⟩] at lawful
      cases lawful
  · rw [ofValue_violations lawful] at read
    cases read

/-- No payload is refused as undecodable. -/
theorem Envelope.refusal_ne_undecodable {payload : Bytes} {framing : Framing}
    {rejection : Rejection} (rejected : parse payload framing = .error rejection)
    (shape : Json.Mismatch) : rejection.refusal ≠ .undecodable shape := by
  by_cases some : ∃ value tail, Contains payload framing value tail
  · obtain ⟨value, tail, contains⟩ := some
    rw [parse_contains contains] at rejected
    cases read : Message.ofValue value with
    | ok message =>
        rw [read] at rejected
        cases rejected
    | error refusal =>
        rw [read] at rejected
        cases rejected
        rintro rfl
        exact ofValue_ne_undecodable contains.ordered shape read
  · obtain ⟨rejection', text, rejected', -, unreadable⟩ := parse_malformed
      fun value tail contains => some ⟨value, tail, contains⟩
    rw [rejected] at rejected'
    cases rejected'
    intro undecodable
    rw [Rejection.error, undecodable] at unreadable
    cases unreadable

/-! ### Arrays -/

namespace Message

/-- The names of the fields in their order. -/
def fieldNames : List String :=
  record.fields.map Json.Field.name

/-- The fields of a request without their names. -/
def items (message : Message) : List Json.Value :=
  [.string message.jsonrpc, .string message.method, message.params, message.id.toValue]

/-- A list is read field by field, in order. -/
theorem decoder_array (items : List Json.Value) :
    decoder.ofValue (.array items) = record.ofItems "fewer elements in array" items :=
  rfl

section

variable {items : List Json.Value} {message : Message}

/-- The items are the members under the names of the fields. -/
theorem describes_of_array (decoded : decoder.ofValue (.array items) = .ok message) :
    items.length ≤ 4 ∧ Describes (fieldNames.zip items) message := by
  rw [decoder_array, Json.Record.ofItems_eq_ok] at decoded
  obtain ⟨draft, gives, built⟩ := decoded
  -- version and method have no default
  obtain ⟨-, ⟨⟩, -⟩ | ⟨_, later, jsonrpc, rfl, isJsonrpc, named⟩ := gives.first
  obtain rfl := Json.Decoder.string_ofValue_eq_ok.mp isJsonrpc
  obtain ⟨-, ⟨⟩, -⟩ | ⟨_, later, method, rfl, isMethod, given⟩ := named.first
  obtain rfl := Json.Decoder.string_ofValue_eq_ok.mp isMethod
  -- the array may end behind them, or behind the params
  obtain ⟨rfl, -, rfl⟩ | ⟨_, later, params, rfl, ⟨⟩, identified⟩ := given.first
  · cases built
    exact ⟨by simp, rfl, rfl, rfl, .missing⟩
  obtain ⟨rfl, -, rfl⟩ | ⟨_, later, id, rfl, isId, complete⟩ := identified.first
  · cases built
    exact ⟨by simp, rfl, rfl, rfl, .missing⟩
  have identifies := identifies_some_iff.mpr (Json.Decoder.untagged_ofValue_eq_ok.mp isId)
  cases complete
  cases built
  exact ⟨by simp, rfl, rfl, rfl, identifies⟩

/-- A list whose items describe a message is read as that message. -/
theorem array_of_describes (short : items.length ≤ 4)
    (describes : Describes (fieldNames.zip items) message) :
    decoder.ofValue (.array items) = .ok message := by
  rw [decoder_array, Json.Record.ofItems_eq_ok]
  obtain ⟨jsonrpc, method, params, id⟩ := message
  obtain ⟨hasJsonrpc, hasMethod, hasParams, hasId⟩ := describes
  -- an array of one item has no method
  rcases items with _ | ⟨_, _ | ⟨_, later⟩⟩
  · cases hasJsonrpc
  · cases hasMethod
  cases hasJsonrpc
  cases hasMethod
  rcases later with _ | ⟨_, _ | ⟨value, _ | ⟨_, later⟩⟩⟩
  · cases hasParams
    cases hasId
    exact ⟨_, .set rfl (.set rfl (.default rfl (.default rfl .nil))), rfl⟩
  · cases hasParams
    cases hasId
    exact ⟨_, .set rfl (.set rfl (.set rfl (.default rfl .nil))), rfl⟩
  · cases hasParams
    have isId : Id.decoder.ofValue value = .ok id :=
      Json.Decoder.untagged_ofValue_eq_ok.mpr (identifies_some_iff.mp hasId)
    exact ⟨_, .set rfl (.set rfl (.set rfl (.set isId .nil))), rfl⟩
  · simp only [List.length_cons] at short
    omega

/-- Of the values that are no objects the decoder takes the arrays of fields, which may leave out
the last ones. -/
theorem decoder_noObject_eq_ok {value : Json.Value} (other : ∀ members, value ≠ .object members) :
    decoder.ofValue value = .ok message ↔
      ∃ items, value = .array items ∧ items.length ≤ fieldNames.length ∧
        Describes (fieldNames.zip items) message := by
  constructor
  · intro decoded
    cases value with
    | array items => exact ⟨items, rfl, describes_of_array decoded⟩
    | object members => exact absurd rfl (other members)
    | null | bool | number | string => cases decoded
  · rintro ⟨items, rfl, short, describes⟩
    exact array_of_describes short describes

end

/-- A request can be decoded from the array of all its fields. -/
theorem decoder_items {message : Message} (fits : message.id.Fits) :
    decoder.ofValue (.array message.items) = .ok message :=
  array_of_describes (Nat.le_refl 4) ⟨rfl, rfl, rfl, fits.identifies⟩

end Message

/-! ### Agreement -/

/-- The schema and the decoder of requests agree.  An object has no violations exactly when it is
decoded as a request, whose identifier is then the one that is recovered from the object; so no
payload is rejected because a value that has passed the schema could not be decoded.  A value that
is no object breaks the schema and has no identifier.  Of these values the decoder alone would take
the arrays of fields in their order, from which every request can be decoded. -/
theorem schema_agrees_with_decoder :
    (∀ members, Json.Sorted members →
      (violationsOf (.object members) = [] ↔
        ∃ message, Message.decoder.ofValue (.object members) = .ok message) ∧
      ∀ message, Message.decoder.ofValue (.object members) = .ok message →
        message.id = recoverId (.object members)) ∧
    (∀ payload framing rejection, Envelope.parse payload framing = .error rejection →
      ∀ shape, rejection.refusal ≠ .undecodable shape) ∧
    (∀ value : Json.Value, (∀ members, value ≠ .object members) →
      violationsOf value = [⟨"", "request must be a JSON object"⟩] ∧
      recoverId value = .absent ∧
      ∀ message, Message.decoder.ofValue value = .ok message ↔
        ∃ items, value = .array items ∧ items.length ≤ Message.fieldNames.length ∧
          Message.Describes (Message.fieldNames.zip items) message) ∧
    ∀ message : Message, message.id.Fits →
      Message.decoder.ofValue (.array message.items) = .ok message := by
  refine ⟨fun members sorted => ⟨violationsOf_eq_nil_iff_decodes sorted, ?_⟩, ?_, ?_, ?_⟩
  · intro message decoded
    exact id_eq_recoverId sorted decoded
  · intro payload framing rejection rejected shape
    exact Envelope.refusal_ne_undecodable rejected shape
  · intro value other
    exact ⟨violationsOf_noObject other, recoverId_noObject other,
      fun message => Message.decoder_noObject_eq_ok other⟩
  · intro message fits
    exact Message.decoder_items fits

/-- The greatest signed identifier is decoded and the next integer is not; a number is rejected by
the schema; an array with an identifier is decoded although the schema refuses it. -/
theorem schema_agrees_with_decoder_bounds :
    (∃ message, Message.decoder.ofValue (.object [("id", .integer 0x7FFFFFFFFFFFFFFF),
        ("jsonrpc", .string "2.0"), ("method", .string "x")]) = .ok message ∧
      message.id = .integer 0x7FFFFFFFFFFFFFFF) ∧
    (¬∃ message, Message.decoder.ofValue (.object [("id", .integer 0x8000000000000000),
        ("jsonrpc", .string "2.0"), ("method", .string "x")]) = .ok message) ∧
    (∃ rejection, Envelope.parse [49] .text = .error rejection ∧
      ∀ shape, rejection.refusal ≠ .undecodable shape) ∧
    violationsOf (.array (Message.request "x" .null (.integer 7)).items) ≠ [] ∧
    Message.decoder.ofValue (.array (Message.request "x" .null (.integer 7)).items) =
      .ok (Message.request "x" .null (.integer 7)) := by
  obtain ⟨objects, payloads, others, arrays⟩ := schema_agrees_with_decoder
  have sorted (value : Int) : Json.Sorted [("id", Json.Value.integer value),
      ("jsonrpc", .string "2.0"), ("method", .string "x")] := by
    simp only [Json.Sorted, List.pairwise_cons, List.forall_mem_cons]
    exact ⟨⟨by decide, by decide, nofun⟩, ⟨by decide, nofun⟩, nofun, .nil⟩
  refine ⟨?_, ?_, ?_, ?_, ?_⟩
  · obtain ⟨agree, same⟩ := objects _ (sorted 0x7FFFFFFFFFFFFFFF)
    obtain ⟨message, decoded⟩ := agree.mp rfl
    exact ⟨message, decoded, same message decoded⟩
  · rw [← (objects _ (sorted 0x8000000000000000)).1]
    decide
  · exact ⟨_, rfl, payloads [49] .text _ rfl⟩
  · rw [(others (.array _) nofun).1]
    decide
  · exact arrays _ ⟨by decide, by decide⟩

end RpcDispatch.Rpc
