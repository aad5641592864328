import RpcDispatch.Proofs.Json.Printing
import RpcDispatch.Proofs.Rpc.Envelope

/-
This file says that the text of a request is read back to that request.
-/

namespace RpcDispatch.Rpc

/-- An identifier that requests can have: its integers are signed and of 64 bits. -/
def Id.Fits : Id → Prop
  | .integer value => -0x8000000000000000 ≤ value ∧ value ≤ 0x7FFFFFFFFFFFFFFF
  | .string _ | .absent => True

theorem Id.Fits.identifies {id : Id} (fits : id.Fits) : Identifies (some id.toValue) id := by
  cases id with
  | integer value => exact .integer fits.1 fits.2
  | string text => exact .string text
  | absent => exact .null

theorem Id.Fits.portable {id : Id} (fits : id.Fits) (depth : Nat) :
    Json.Portable depth id.toValue := by
  cases id with
  | integer value =>
      have bounds := fits
      unfold Id.Fits at bounds
      apply Json.Portable.integer
      rw [Json.Number.isExact, Bool.and_eq_true, decide_eq_true_eq, decide_eq_true_eq]
      omega
  | string text => exact .string text
  | absent => exact .null

namespace Message

/-- The members that are written for a request. -/
def members (message : Message) : List (String × Json.Value) :=
  [("jsonrpc", .string message.jsonrpc), ("method", .string message.method)]
    ++ (if message.params.isNull then [] else [("params", message.params)])
    ++ (if message.id.isEmpty then [] else [("id", message.id.toValue)])

theorem chars_eq (message : Message) :
    message.chars = Json.objectChars (Json.membersChars message.members) := by
  unfold chars members
  cases message.params.isNull <;> cases message.id.isEmpty <;>
    simp [Json.membersChars, Json.Value.chars]

/-- The written members have the fields of the request: what is left out is read as null. -/
theorem describes_members {message : Message} (fits : message.id.Fits) :
    Describes (Json.collectMembers message.members) message := by
  have last := (Json.collects_collectMembers message.members).last
  obtain ⟨jsonrpc, method, params, id⟩ := message
  have identifies := Id.Fits.identifies fits
  constructor
  · rw [last]
    cases params <;> cases id <;> rfl
  · rw [last]
    cases params <;> cases id <;> rfl
  · rw [last]
    cases params <;> cases id <;> rfl
  · rw [last]
    cases params <;> cases id <;> first | exact .missing | exact identifies

theorem documentText {message : Message} (fits : message.id.Fits)
    (portable : Json.Portable 126 message.params) :
    Json.DocumentText (.object (Json.collectMembers message.members))
      (Text.Utf8.encode message.text) := by
  have forms : ∀ pair ∈ message.members,
      Json.ValueText 126 pair.2 (Text.Utf8.encodeChars pair.2.chars) := by
    intro pair mem
    apply Json.Portable.valueText
    simp only [members, List.mem_append, List.mem_cons, List.not_mem_nil, or_false] at mem
    rcases mem with ((rfl | rfl) | mem) | mem
    · exact .string message.jsonrpc
    · exact .string message.method
    · split at mem
      · cases mem
      · rw [List.mem_singleton] at mem
        exact mem ▸ portable
    · split at mem
      · cases mem
      · rw [List.mem_singleton] at mem
        exact mem ▸ fits.portable 126
  have form := Json.valueText_objectChars forms
  rw [← chars_eq] at form
  have document := Json.DocumentText.document Json.blanks_nil Json.blanks_nil form
  have written : Text.Utf8.encode message.text = Text.Utf8.encodeChars message.chars := by
    rw [Text.Utf8.encode, text, String.toList_ofList]
    rfl
  rwa [List.nil_append, List.append_nil, ← written] at document

end Message

namespace Envelope

/-- A payload that holds the text of a request is that request. -/
theorem parse_framed {message : Message} (supported : message.jsonrpc = version)
    (named : message.method ≠ "") (fits : message.id.Fits)
    (portable : Json.Portable 126 message.params) {payload : Bytes} {framing : Framing}
    {tail : Bytes} (framed : Framed framing payload (Text.Utf8.encode message.text) tail) :
    parse payload framing = .ok ⟨message, tail⟩ := by
  have contains : Contains payload framing (.object (Json.collectMembers message.members)) tail :=
    ⟨_, framed, Message.documentText fits portable⟩
  have sorted := (Json.collects_collectMembers message.members).sorted
  rw [parse_contains contains,
    (ofValue_eq_ok sorted).mpr ⟨Message.describes_members fits, supported, named⟩]

/-- A request of the supported version is read back from its text, and from a binary payload of its
text and a tail. -/
theorem parse_text (message : Message) (supported : message.jsonrpc = version)
    (named : message.method ≠ "") (fits : message.id.Fits)
    (portable : Json.Portable 126 message.params) :
    parse (Text.Utf8.encode message.text) .text = .ok ⟨message, []⟩ ∧
      ∀ tail, (Text.Utf8.encode message.text).length < Bytes.lengthBound →
        parse (Parts.join ⟨Text.Utf8.encode message.text, tail⟩) .binary = .ok ⟨message, tail⟩ :=
  ⟨parse_framed supported named fits portable (.text _),
    fun tail short => parse_framed supported named fits portable (.binary tail short)⟩

/-- A notification with a method beyond ASCII, both extremes of integers and an object inside an
array. -/
theorem parse_text_extremes :
    parse (Text.Utf8.encode (Message.request "é\n" (.array [.integer (-0x8000000000000000),
        .integer 0xFFFFFFFFFFFFFFFF, .object [("𝄞", .null)]]) .absent).text) .text =
      .ok ⟨Message.request "é\n" (.array [.integer (-0x8000000000000000),
        .integer 0xFFFFFFFFFFFFFFFF, .object [("𝄞", .null)]]) .absent, []⟩ := by
  have inner : Json.Portable 125 (.object [("𝄞", .null)]) := by
    apply Json.Portable.object (List.pairwise_singleton _ _)
    intro member mem
    rw [List.mem_singleton.mp mem]
    exact .null
  have portable : Json.Portable 126 (.array [.integer (-0x8000000000000000),
      .integer 0xFFFFFFFFFFFFFFFF, .object [("𝄞", .null)]]) := by
    apply Json.Portable.array
    simp only [List.forall_mem_cons]
    exact ⟨.integer (by decide), .integer (by decide), inner, nofun⟩
  exact (parse_text (Message.request "é\n" _ .absent) rfl (by decide) trivial portable).1

end Envelope

end RpcDispatch.Rpc
