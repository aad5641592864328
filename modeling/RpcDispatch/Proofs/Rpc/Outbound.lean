import RpcDispatch.Proofs.Json.Portable
import RpcDispatch.Proofs.Rpc.RoundTrip

/-
This file says that the text of an answer is read back as that answer.
-/

namespace RpcDispatch.Rpc

namespace Violation

/-- A violation is written with its members in order. -/
theorem toValue_eq (violation : Violation) : violation.toValue =
    .object [("message", .string violation.message), ("path", .string violation.path)] := by
  simp only [toValue, Json.Value.ofMembers, Json.collectMembers, Json.insertMember,
    List.foldl_cons, List.foldl_nil, String.reduceLT, ↓reduceIte]

/-- A violation is read back from its value. -/
theorem ofValue_toValue (violation : Violation) :
    record.decoder.ofValue violation.toValue = .ok violation := by
  rw [toValue_eq]
  rfl

/-- The value of a violation nests one deep. -/
theorem portable (violation : Violation) (depth : Nat) :
    Json.Portable (depth + 1) violation.toValue := by
  rw [toValue_eq]
  apply Json.Portable.object
  · have less : "message" < "path" := by decide
    exact List.pairwise_pair.mpr less
  · simp only [List.forall_mem_cons]
    exact ⟨.string _, .string _, nofun⟩

/-- The violations in an array, in order. -/
def listOfValue : Json.Value → Except Json.Mismatch (List Violation)
  | .array items => items.mapM record.decoder.ofValue
  | value => .error (value.wrongType "a sequence")

/-- Violations are read back from the list of their values. -/
theorem listOfValue_array (violations : List Violation) :
    listOfValue (.array (violations.map toValue)) = .ok violations := by
  rw [listOfValue]
  induction violations with
  | nil => rfl
  | cons violation violations ih =>
      rw [List.map_cons, List.mapM_cons, ofValue_toValue, ih]
      rfl

end Violation

/-! ### What is read -/

/-- The members that an error has besides its code and message: the violations, if there are
any. -/
inductive ErrorData : List Violation → List (String × Json.Value) → Prop where
  | none : ErrorData [] []
  | some {violations : List Violation} {data : Json.Value} (some : violations ≠ [])
      (decoded : Violation.listOfValue data = .ok violations) :
      ErrorData violations [("data", data)]

/-- The text is read as the reply with the identifier and the result, and nothing else. -/
structure ReadsReply (id : Id) (result : Json.Value) (text : String) : Prop where
  members : Json.Value.ofBytes (Text.Utf8.encode text) = .ok (.object
    [("id", id.toValue), ("jsonrpc", .string version), ("result", result)])
  id : Id.decoder.ofValue id.toValue = .ok id

/-- The text is read as the error with the identifier, and nothing else. -/
structure ReadsError (id : Id) (error : Error) (text : String) : Prop where
  members : ∃ data, ErrorData error.violations data ∧
    Json.Value.ofBytes (Text.Utf8.encode text) = .ok (.object
      [("error", .object (("code", .integer error.code) :: data ++
          [("message", .string error.message)])),
        ("id", id.toValue), ("jsonrpc", .string version)])
  id : Id.decoder.ofValue id.toValue = .ok id

/-- What is read as a reply is not read as an error. -/
theorem ReadsReply.not_error {id other : Id} {result : Json.Value} {error : Error} {text : String}
    (reads : ReadsReply id result text) : ¬ReadsError other error text := by
  rintro ⟨⟨data, -, members⟩, -⟩
  rw [reads.members] at members
  simp at members

/-- A text is read as an error with one code. -/
theorem ReadsError.code_eq {id other : Id} {first second : Error} {text : String}
    (reads : ReadsError id first text) (again : ReadsError other second text) :
    first.code = second.code := by
  obtain ⟨⟨_, -, members⟩, -⟩ := reads
  obtain ⟨⟨_, -, others⟩, -⟩ := again
  rw [members] at others
  simp only [Except.ok.injEq, Json.Value.object.injEq, List.cons_append, List.cons.injEq,
    Prod.mk.injEq, Json.Value.integer, Json.Value.number.injEq, Json.Number.integer.injEq,
    true_and] at others
  exact others.1.1

/-! ### What is written -/

/-- An identifier in range is read back from its value. -/
theorem Id.Fits.decodes {id : Id} (fits : id.Fits) : Id.decoder.ofValue id.toValue = .ok id :=
  Json.Decoder.untagged_ofValue_eq_ok.mpr (identifies_some_iff.mp fits.identifies)

/-- What is printed without blanks around it is read as the value that it is a text of. -/
theorem ofBytes_ofList {value : Json.Value} {written : List Char}
    (form : Json.ValueText 127 value (Text.Utf8.encodeChars written)) :
    Json.Value.ofBytes (Text.Utf8.encode (String.ofList written)) = .ok value := by
  have document := Json.DocumentText.document Json.blanks_nil Json.blanks_nil form
  rw [List.nil_append, List.append_nil] at document
  rw [Json.Value.ofBytes_eq_ok, Text.Utf8.encode, String.toList_ofList]
  exact document

/-- The text of a member that is printed like the value it has. -/
theorem memberText_chars {depth : Nat} (name : String) {value : Json.Value}
    (portable : Json.Portable depth value) :
    Json.MemberText (Json.ValueText depth) (name, value)
      (Text.Utf8.encodeChars (Json.memberChars name value.chars)) :=
  Json.memberText_memberChars portable.valueText

/-- A member with a string is printed as a text of it. -/
theorem memberText_string {depth : Nat} (name text : String) :
    Json.MemberText (Json.ValueText depth) (name, .string text)
      (Text.Utf8.encodeChars (Json.memberChars name (Json.stringChars text))) := by
  have portable : Json.Portable depth (.string text) := .string text
  have member := memberText_chars name portable
  rwa [Json.Value.chars] at member

/-- A reply is read back with its identifier and its result. -/
theorem replyText_reads {id : Id} (fits : id.Fits) {result : Json.Value}
    (portable : Json.Portable 126 result) : ReadsReply id result (replyText id result) := by
  have collected : Json.collectMembers
      [("jsonrpc", .string version), ("id", id.toValue), ("result", result)] =
        [("id", id.toValue), ("jsonrpc", .string version), ("result", result)] := by
    simp only [Json.collectMembers, Json.insertMember, List.foldl_cons, List.foldl_nil,
      String.reduceLT, String.reduceEq, ↓reduceIte]
  refine ⟨?_, fits.decodes⟩
  rw [← collected]
  apply ofBytes_ofList
  apply Json.valueText_braces
  exact .cons (memberText_string "jsonrpc" version)
    (.cons (memberText_chars "id" (fits.portable 126))
      (.cons (memberText_chars "result" portable) .nil))

/-- The members of an error, in the order in which they are written. -/
def ErrorPayload.members (payload : ErrorPayload) : List (String × Json.Value) :=
  ("code", .integer payload.code) :: ("message", .string payload.message) ::
    (payload.data.map fun data => ("data", data)).toList

/-- An error payload is printed as a text of its members. -/
theorem ErrorPayload.valueText {depth : Nat} (payload : ErrorPayload)
    (exact : Json.Number.isExact payload.code = true)
    (portable : ∀ data ∈ payload.data, Json.Portable depth data) :
    Json.ValueText (depth + 1) (.object (Json.collectMembers payload.members))
      (Text.Utf8.encodeChars payload.chars) := by
  apply Json.valueText_braces
  have number : Json.Portable depth (.number (.integer payload.code)) := .integer exact
  have code := memberText_chars "code" number
  rw [Json.Value.chars, Json.Number.chars] at code
  refine .cons code (.cons (memberText_string "message" payload.message) ?_)
  cases found : payload.data with
  | none => exact .nil
  | some data => exact .cons (memberText_chars "data" (portable data found)) .nil

/-- The code of every error is an exact integer. -/
theorem Error.isExact_code (error : Error) : Json.Number.isExact error.code = true := by
  cases error <;> rfl

/-- The data of every error is portable. -/
theorem Error.portable_data (error : Error) :
    ∀ data ∈ error.data, Json.Portable 125 data := by
  intro data found
  unfold Error.data at found
  split at found
  · cases found
  · cases found
    apply Json.Portable.array
    rw [List.forall_mem_map]
    exact fun violation _ => violation.portable 123

/-- The members of an error in order. -/
theorem Error.collectMembers_payload (error : Error) :
    ∃ data, ErrorData error.violations data ∧
      Json.collectMembers (ErrorPayload.ofError error).members =
        ("code", .integer error.code) :: data ++ [("message", .string error.message)] := by
  by_cases none : error.violations = []
  · have members : (ErrorPayload.ofError error).members =
        [("code", .integer error.code), ("message", .string error.message)] := by
      simp [ErrorPayload.members, ErrorPayload.ofError, Error.data, none]
    refine ⟨[], none ▸ .none, ?_⟩
    rw [members]
    simp only [Json.collectMembers, Json.insertMember, List.foldl_cons, List.foldl_nil,
      List.nil_append, List.cons_append, String.reduceLT, String.reduceEq, ↓reduceIte]
  · have members : (ErrorPayload.ofError error).members =
        [("code", .integer error.code), ("message", .string error.message),
          ("data", .array (error.violations.map Violation.toValue))] := by
      simp [ErrorPayload.members, ErrorPayload.ofError, Error.data, none]
    refine ⟨_, .some none (Violation.listOfValue_array error.violations), ?_⟩
    rw [members]
    simp only [Json.collectMembers, Json.insertMember, List.foldl_cons, List.foldl_nil,
      List.nil_append, List.cons_append, String.reduceLT, String.reduceEq, ↓reduceIte]

/-- An error text is read back with its identifier and its error. -/
theorem errorText_reads {id : Id} (fits : id.Fits) (error : Error) :
    ReadsError id error (errorText id error) := by
  obtain ⟨data, holds, inner⟩ := error.collectMembers_payload
  refine ⟨⟨data, holds, ?_⟩, fits.decodes⟩
  rw [← inner]
  generalize payload : Json.Value.object (Json.collectMembers
    (ErrorPayload.ofError error).members) = value
  have collected : Json.collectMembers
      [("jsonrpc", .string version), ("id", id.toValue), ("error", value)] =
        [("error", value), ("id", id.toValue), ("jsonrpc", .string version)] := by
    simp only [Json.collectMembers, Json.insertMember, List.foldl_cons, List.foldl_nil,
      String.reduceLT, ↓reduceIte]
  have form := (ErrorPayload.ofError error).valueText error.isExact_code error.portable_data
  rw [payload] at form
  rw [← collected]
  apply ofBytes_ofList
  apply Json.valueText_braces
  exact .cons (memberText_string "jsonrpc" version)
    (.cons (memberText_chars "id" (fits.portable 126))
      (.cons (Json.memberText_memberChars form) .nil))

/-! ### What requests carry -/

/-- The identifier of a request that was read is one that requests can have. -/
theorem Identifies.fits {value : Option Json.Value} {id : Id} (identifies : Identifies value id) :
    id.Fits := by
  cases identifies with
  | integer least most => exact ⟨least, most⟩
  | missing | null | string => trivial

/-- A request that was read has an identifier that requests can have, and params that can be
written again if they hold no float. -/
theorem Envelope.portable_of_parse {payload : Bytes} {framing : Framing} {envelope : Envelope}
    (accepted : parse payload framing = .ok envelope) :
    envelope.message.id.Fits ∧
      (Json.FloatFree envelope.message.params → Json.Portable 126 envelope.message.params) := by
  obtain ⟨members, ⟨json, -, document⟩, describes, -⟩ := contains_of_parse accepted
  refine ⟨describes.id.fits, fun plain => ?_⟩
  rw [describes.params] at plain ⊢
  cases found : members.lookup "params" with
  | none => exact .null
  | some params =>
      rw [found] at plain
      obtain ⟨part, form⟩ := document.member (Json.mem_of_lookup found)
      exact form.portable plain

end RpcDispatch.Rpc
