import RpcDispatch.Proofs.Json.Reading
import RpcDispatch.Proofs.Rpc.Payload
import RpcDispatch.Proofs.Rpc.Request
import Mathlib.Data.List.Nodup
import Mathlib.Data.List.Perm.Basic

/-
This file says which payloads are requests, and with which error and identifier every other
payload is rejected.
-/

namespace RpcDispatch.Rpc

/-! ### The schema -/

/-- The ways in which a member of an object breaks the schema of requests. -/
inductive Offence (members : List (String × Json.Value)) : Violation → Prop where
  | missing {name : String} (textual : name = "jsonrpc" ∨ name = "method")
      (absent : members.lookup name = none) :
      Offence members ⟨"/" ++ name, "missing required property"⟩
  | noText {name : String} {value : Json.Value} (textual : name = "jsonrpc" ∨ name = "method")
      (found : members.lookup name = some value) (other : ∀ text, value ≠ .string text) :
      Offence members ⟨"/" ++ name, "expected string"⟩
  | noIdentifier {value : Json.Value} (found : members.lookup "id" = some value)
      (other : ∀ id, ¬Identifies (some value) id) :
      Offence members ⟨"/id", "expected integer, string or null"⟩

/-- There is one violation for each member that breaks the schema, in the order of the fields. -/
structure Violates (members : List (String × Json.Value)) (violations : List Violation) :
    Prop where
  ordered : (violations.map Violation.path).Sublist ["/jsonrpc", "/method", "/id"]
  offences : ∀ violation, violation ∈ violations ↔ Offence members violation

/-- Lists with the same elements are equal if their images keep the order of one list. -/
theorem eq_of_map_sublist {α β : Type} {image : α → β} {order : List β} (distinct : order.Nodup)
    {first second : List α} (ordered : (first.map image).Sublist order)
    (ordered' : (second.map image).Sublist order)
    (same : ∀ element, element ∈ first ↔ element ∈ second) : first = second := by
  have nodup := distinct.sublist ordered
  have nodup' := distinct.sublist ordered'
  have perm : first.Perm second :=
    (List.perm_ext_iff_of_nodup (.of_map image nodup) (.of_map image nodup')).mpr same
  have images : first.map image = second.map image :=
    (List.Nodup.perm_iff_eq_of_sublist distinct ordered ordered').mp (perm.map image)
  apply List.ext_getElem perm.length_eq
  intro index within within'
  apply List.inj_on_of_nodup_map nodup (List.getElem_mem within)
    ((same _).mpr (List.getElem_mem within'))
  have there := congrArg (·[index]?) images
  simpa [within, within'] using there

/-- The violations of an object are determined by its members. -/
theorem Violates.unique {members : List (String × Json.Value)}
    {violations violations' : List Violation} (violates : Violates members violations)
    (violates' : Violates members violations') : violations = violations' := by
  apply eq_of_map_sublist (by decide) violates.ordered violates'.ordered
  intro violation
  rw [violates.offences, violates'.offences]

/-- The check of a text member names that member only. -/
theorem requireText_sublist (members : List (String × Json.Value)) (name : String) :
    ((requireText members name).map Violation.path).Sublist ["/" ++ name] := by
  unfold requireText
  split
  · exact .refl _
  · exact List.nil_sublist _
  · exact .refl _

/-- A text member is reported when it is missing or is no string. -/
theorem mem_requireText {members : List (String × Json.Value)} {name : String}
    {violation : Violation} : violation ∈ requireText members name ↔
      (members.lookup name = none ∧
        violation = ⟨"/" ++ name, "missing required property"⟩) ∨
      (∃ value, members.lookup name = some value ∧ (∀ text, value ≠ .string text) ∧
        violation = ⟨"/" ++ name, "expected string"⟩) := by
  unfold requireText
  split
  · next absent => simp [absent]
  · next text found => simp [found]
  · next value other found =>
      have noText : ∀ text, value ≠ .string text := fun text same => other text (by rw [same])
      simp [found, noText]

/-- The check of the identifier names that member only. -/
theorem checkId_sublist (members : List (String × Json.Value)) :
    ((checkId members).map Violation.path).Sublist ["/id"] := by
  unfold checkId
  split
  · exact List.nil_sublist _
  · split
    · exact List.nil_sublist _
    · exact .refl _

/-- An identifier is reported when it is there and identifies nothing. -/
theorem mem_checkId {members : List (String × Json.Value)} {violation : Violation} :
    violation ∈ checkId members ↔ ∃ value, members.lookup "id" = some value ∧
      (∀ id, ¬Identifies (some value) id) ∧
        violation = ⟨"/id", "expected integer, string or null"⟩ := by
  unfold checkId
  split
  · next absent => simp [absent]
  · next value found =>
      have identifier : isIdentifier value = true ↔ ∃ id, Identifies (some value) id :=
        isIdentifier_iff
      by_cases isId : isIdentifier value = true
      · obtain ⟨id, identifies⟩ := identifier.mp isId
        rw [if_pos isId]
        simp only [List.not_mem_nil, found, false_iff]
        rintro ⟨_, same, other, -⟩
        cases same
        exact other id identifies
      · have other : ∀ id, ¬Identifies (some value) id :=
          fun id identifies => isId (identifier.mpr ⟨id, identifies⟩)
        simp [isId, found, other]

/-- The violations of an object are those of its members. -/
theorem violates_violationsOf (members : List (String × Json.Value)) :
    Violates members (violationsOf (.object members)) where
  ordered := by
    simp only [violationsOf, List.map_append]
    exact ((requireText_sublist members "jsonrpc").append
      (requireText_sublist members "method")).append (checkId_sublist members)
  offences violation := by
    simp only [violationsOf, List.mem_append, mem_requireText, mem_checkId]
    constructor
    · rintro (((⟨absent, rfl⟩ | ⟨value, found, other, rfl⟩) |
        (⟨absent, rfl⟩ | ⟨value, found, other, rfl⟩)) | ⟨value, found, other, rfl⟩)
      · exact .missing (.inl rfl) absent
      · exact .noText (.inl rfl) found other
      · exact .missing (.inr rfl) absent
      · exact .noText (.inr rfl) found other
      · exact .noIdentifier found other
    · intro offence
      cases offence with
      | missing textual absent =>
          rcases textual with rfl | rfl
          · exact .inl (.inl (.inl ⟨absent, rfl⟩))
          · exact .inl (.inr (.inl ⟨absent, rfl⟩))
      | noText textual found other =>
          rcases textual with rfl | rfl
          · exact .inl (.inl (.inr ⟨_, found, other, rfl⟩))
          · exact .inl (.inr (.inr ⟨_, found, other, rfl⟩))
      | noIdentifier found other => exact .inr ⟨_, found, other, rfl⟩

/-- An object has no violations exactly when its members are the fields of a request. -/
theorem violationsOf_eq_nil {members : List (String × Json.Value)} :
    violationsOf (.object members) = [] ↔ ∃ message, Message.Describes members message := by
  have violates := violates_violationsOf members
  constructor
  · intro none
    rw [none] at violates
    have lawful : ∀ violation, ¬Offence members violation :=
      fun violation offence => List.not_mem_nil ((violates.offences violation).mpr offence)
    have text : ∀ name, name = "jsonrpc" ∨ name = "method" →
        ∃ text, members.lookup name = some (.string text) := by
      intro name textual
      cases found : members.lookup name with
      | none => exact absurd (.missing textual found) (lawful _)
      | some value =>
          apply Classical.byContradiction
          intro other
          exact lawful _ (.noText textual found fun text same => other ⟨text, by rw [same]⟩)
    obtain ⟨jsonrpc, hasJsonrpc⟩ := text "jsonrpc" (.inl rfl)
    obtain ⟨method, hasMethod⟩ := text "method" (.inr rfl)
    obtain ⟨id, identifies⟩ : ∃ id, Identifies (members.lookup "id") id := by
      cases found : members.lookup "id" with
      | none => exact ⟨_, .missing⟩
      | some value =>
          apply Classical.byContradiction
          intro other
          exact lawful _ (.noIdentifier found fun id identifies => other ⟨id, identifies⟩)
    exact ⟨⟨jsonrpc, method, _, id⟩, hasJsonrpc, hasMethod, rfl, identifies⟩
  · rintro ⟨message, describes⟩
    apply List.eq_nil_iff_forall_not_mem.mpr
    intro violation mem
    cases (violates.offences violation).mp mem with
    | missing textual absent =>
        rcases textual with rfl | rfl
        · rw [describes.jsonrpc] at absent
          cases absent
        · rw [describes.method] at absent
          cases absent
    | noText textual found other =>
        rcases textual with rfl | rfl
        · rw [describes.jsonrpc] at found
          exact other _ (Option.some.inj found).symm
        · rw [describes.method] at found
          exact other _ (Option.some.inj found).symm
    | noIdentifier found other => exact other _ (found ▸ describes.id)

/-! ### The message -/

/-- The errors of values that are no request of the supported version. -/
inductive Refuses : Json.Value → Error → Prop where
  | noObject {value : Json.Value} (other : ∀ members, value ≠ .object members) :
      Refuses value (.invalidRequest "Invalid request schema"
        [⟨"", "request must be a JSON object"⟩])
  | schema {members : List (String × Json.Value)} {violations : List Violation}
      (some : violations ≠ []) (violates : Violates members violations) :
      Refuses (.object members) (.invalidRequest "Invalid request schema" violations)
  | version {members : List (String × Json.Value)} {message : Message}
      (describes : Message.Describes members message) (other : message.jsonrpc ≠ version) :
      Refuses (.object members) (.invalidRequest
        s!"Unsupported JSON-RPC version '{message.jsonrpc}', expected '{version}'" [])
  | method {members : List (String × Json.Value)} {message : Message}
      (describes : Message.Describes members message) (supported : message.jsonrpc = version)
      (empty : message.method = "") :
      Refuses (.object members) (.invalidRequest "Method must not be empty" [])

/-- The identifier of a rejected value is its own, if it has one. -/
inductive Recovers (value : Json.Value) : Id → Prop where
  | own {id : Id} (identifies : Identifies (value.get? "id") id) : Recovers value id
  | none (other : ∀ id, ¬Identifies (value.get? "id") id) : Recovers value .absent

/-- The identifier that is recovered is the one of the grammar. -/
theorem recovers_recoverId (value : Json.Value) : Recovers value (recoverId value) := by
  unfold recoverId
  cases found : value.get? "id" with
  | none =>
      apply Recovers.own
      rw [found]
      exact .missing
  | some member =>
      cases read : Id.ofValue? member with
      | none =>
          have other : ∀ id, ¬Identifies (value.get? "id") id := by
            intro id identifies
            rw [found, identifies_some_iff, read] at identifies
            cases identifies
          simpa [read] using Recovers.none other
      | some id =>
          have own : Identifies (value.get? "id") id := by
            rw [found]
            exact identifies_some_iff.mpr read
          simpa [read] using Recovers.own own

/-- A header passes with the right version and a method that is not empty. -/
theorem checkHeader_eq_ok {message : Message} :
    checkHeader message = .ok () ↔ message.jsonrpc = version ∧ message.method ≠ "" := by
  unfold checkHeader
  by_cases supported : message.jsonrpc = version
  · by_cases empty : message.method = "" <;> simp [supported, empty]
  · simp [supported]

/-- A value that violates the schema is rejected with its violations. -/
theorem ofValue_violations {value : Json.Value} (some : violationsOf value ≠ []) :
    Message.ofValue value = .error (.schema (violationsOf value)) := by
  unfold Message.ofValue
  split
  · next none => exact absurd none some
  · rfl

section

variable {members : List (String × Json.Value)} (sorted : Json.Sorted members)

include sorted

/-- The members of a message are read as that message, up to the check of its header. -/
theorem ofValue_describes {message : Message} (describes : Message.Describes members message) :
    Message.ofValue (.object members) = (checkHeader message).map fun _ => message := by
  have lawful := violationsOf_eq_nil.mpr ⟨message, describes⟩
  have decoded := (Message.decoder_eq_ok sorted).mpr describes
  unfold Message.ofValue
  rw [lawful, decoded]

/-- An object is a request exactly when its members are the fields of one of the supported version
and with a method. -/
theorem ofValue_eq_ok {message : Message} :
    Message.ofValue (.object members) = .ok message ↔
      Message.Describes members message ∧ message.jsonrpc = version ∧ message.method ≠ "" := by
  constructor
  · intro read
    by_cases lawful : violationsOf (.object members) = []
    · obtain ⟨message', describes⟩ := violationsOf_eq_nil.mp lawful
      rw [ofValue_describes sorted describes, Json.map_eq_ok] at read
      obtain ⟨_, checked, rfl⟩ := read
      exact ⟨describes, checkHeader_eq_ok.mp checked⟩
    · rw [ofValue_violations lawful] at read
      cases read
  · rintro ⟨describes, header⟩
    rw [ofValue_describes sorted describes, checkHeader_eq_ok.mpr header]
    rfl

/-- A value is refused with the error that the schema and the header give. -/
theorem refuses_of_ofValue {refusal : Refusal}
    (read : Message.ofValue (.object members) = .error refusal) :
    Refuses (.object members) refusal.error := by
  by_cases lawful : violationsOf (.object members) = []
  · obtain ⟨message, describes⟩ := violationsOf_eq_nil.mp lawful
    rw [ofValue_describes sorted describes] at read
    unfold checkHeader at read
    split at read
    · next other =>
        cases read
        exact .version describes other
    · next supported =>
        split at read
        · next empty =>
            cases read
            exact .method describes (Classical.not_not.mp supported) (String.isEmpty_iff.mp empty)
        · cases read
  · rw [ofValue_violations lawful] at read
    cases read
    exact .schema lawful (violates_violationsOf members)

end

/-- What is no object is rejected as such. -/
theorem ofValue_noObject {value : Json.Value} (other : ∀ members, value ≠ .object members) :
    Message.ofValue value = .error (.schema [⟨"", "request must be a JSON object"⟩]) := by
  cases value with
  | object members => exact absurd rfl (other members)
  | null | bool | number | string | array => rfl

/-- The members of an object that was read are in order. -/
def Ordered (value : Json.Value) : Prop :=
  ∀ members, value = .object members → Json.Sorted members

/-- The members of a document are in order. -/
theorem ordered_of_document {value : Json.Value} {json : Bytes}
    (document : Json.DocumentText value json) : Ordered value := by
  rintro members rfl
  cases document with
  | document blank blank' form =>
      cases form with
      | object within entries collects => exact collects.sorted

/-- Every value is a request or refused. -/
theorem ofValue_refuses {value : Json.Value} (ordered : Ordered value) {refusal : Refusal}
    (read : Message.ofValue value = .error refusal) : Refuses value refusal.error := by
  by_cases object : ∃ members, value = .object members
  · obtain ⟨members, rfl⟩ := object
    exact refuses_of_ofValue (ordered members rfl) read
  · have other : ∀ members, value ≠ .object members := fun members same => object ⟨members, same⟩
    rw [ofValue_noObject other] at read
    cases read
    exact .noObject other

/-- A request is an object whose members are its fields. -/
theorem of_ofValue {value : Json.Value} (ordered : Ordered value) {message : Message}
    (read : Message.ofValue value = .ok message) :
    ∃ members, value = .object members ∧ Message.Describes members message ∧
      message.jsonrpc = version ∧ message.method ≠ "" := by
  by_cases object : ∃ members, value = .object members
  · obtain ⟨members, rfl⟩ := object
    exact ⟨members, rfl, (ofValue_eq_ok (ordered members rfl)).mp read⟩
  · rw [ofValue_noObject fun members same => object ⟨members, same⟩] at read
    cases read

/-- A refused value gets the error that refuses it. -/
theorem Refuses.ofValue {value : Json.Value} {error : Error} (refuses : Refuses value error)
    (ordered : Ordered value) :
    ∃ refusal, Message.ofValue value = .error refusal ∧ refusal.error = error := by
  cases refuses with
  | noObject other => exact ⟨_, ofValue_noObject other, rfl⟩
  | @schema members violations some violates =>
      have same := violates.unique (violates_violationsOf members)
      rw [same] at some ⊢
      exact ⟨_, ofValue_violations some, rfl⟩
  | @version members message describes other =>
      refine ⟨.unsupportedVersion message.jsonrpc, ?_, rfl⟩
      rw [ofValue_describes (ordered members rfl) describes, checkHeader, if_pos other]
      rfl
  | @method members message describes supported empty =>
      refine ⟨.emptyMethod, ?_, rfl⟩
      rw [ofValue_describes (ordered members rfl) describes, checkHeader,
        if_neg (not_not_intro supported), if_pos (String.isEmpty_iff.mpr empty)]
      rfl

/-! ### Payloads -/

namespace Envelope

/-- The JSON text of a payload is a text of the value. -/
def Contains (payload : Bytes) (framing : Framing) (value : Json.Value) (tail : Bytes) : Prop :=
  ∃ json, Framed framing payload json tail ∧ Json.DocumentText value json

variable {payload : Bytes} {framing : Framing}

/-- The members of the value in a payload are in order. -/
theorem Contains.ordered {value : Json.Value} {tail : Bytes}
    (contains : Contains payload framing value tail) : Ordered value := by
  obtain ⟨json, -, document⟩ := contains
  exact ordered_of_document document

/-- A payload that contains a value is the request that the value is. -/
theorem parse_contains {value : Json.Value} {tail : Bytes}
    (contains : Contains payload framing value tail) :
    parse payload framing =
      match Message.ofValue value with
      | .error refusal => .error ⟨recoverId value, refusal⟩
      | .ok message => .ok ⟨message, tail⟩ := by
  obtain ⟨json, framed, document⟩ := contains
  have parts : split payload framing = .ok ⟨json, tail⟩ := split_eq_ok.mpr framed
  have read : Json.Value.ofBytes json = .ok value := Json.Value.ofBytes_eq_ok.mpr document
  cases made : Message.ofValue value <;> simp only [parse, parts, read, made]

/-- Another payload is rejected before there is a value. -/
theorem parse_malformed (malformed : ∀ value tail, ¬Contains payload framing value tail) :
    ∃ rejection text, parse payload framing = .error rejection ∧ rejection.id = .absent ∧
      rejection.error = .parsing text := by
  cases parts : split payload framing with
  | error fault =>
      refine ⟨⟨.absent, .framing fault⟩, fault.message, ?_, rfl, rfl⟩
      unfold parse
      rw [parts]
  | ok parts' =>
      cases read : Json.Value.ofBytes parts'.json with
      | error failure =>
          refine ⟨⟨.absent, .json (failure.message parts'.json)⟩, _, ?_, rfl, rfl⟩
          unfold parse
          rw [parts]
          simp only
          rw [read]
      | ok value =>
          exact absurd ⟨_, split_eq_ok.mp parts, Json.Value.ofBytes_eq_ok.mp read⟩
            (malformed value parts'.tail)

/-- An accepted payload contains the object that its request was read from. -/
theorem contains_of_parse {envelope : Envelope} (accepted : parse payload framing = .ok envelope) :
    ∃ members, Contains payload framing (.object members) envelope.binary ∧
      Message.Describes members envelope.message ∧ envelope.message.jsonrpc = version ∧
        envelope.message.method ≠ "" := by
  by_cases some : ∃ value tail, Contains payload framing value tail
  · obtain ⟨value, tail, contains⟩ := some
    rw [parse_contains contains] at accepted
    cases read : Message.ofValue value with
    | error refusal =>
        rw [read] at accepted
        cases accepted
    | ok message =>
        rw [read] at accepted
        cases accepted
        obtain ⟨members, rfl, described⟩ := of_ofValue contains.ordered read
        exact ⟨members, contains, described⟩
  · obtain ⟨rejection, text, rejected, -⟩ := parse_malformed
      fun value tail contains => some ⟨value, tail, contains⟩
    rw [accepted] at rejected
    cases rejected

/-- A payload is accepted exactly when it is the text, or the binary form with a tail, of an
object whose members are a supported version, a method that is not empty, and an identifier; the
request has these members as its fields.  A payload without a JSON value is rejected as
unreadable, without an identifier.  Every other payload is rejected with the error that refuses its
value, under the identifier of the value if it has one. -/
theorem parse_grammar (payload : Bytes) (framing : Framing) :
    (∀ envelope, parse payload framing = .ok envelope ↔
      ∃ members, Contains payload framing (.object members) envelope.binary ∧
        Message.Describes members envelope.message ∧ envelope.message.jsonrpc = version ∧
          envelope.message.method ≠ "") ∧
    ((∀ value tail, ¬Contains payload framing value tail) →
      ∃ rejection text, parse payload framing = .error rejection ∧ rejection.id = .absent ∧
        rejection.error = .parsing text) ∧
    (∀ value tail error, Contains payload framing value tail → Refuses value error →
      ∃ rejection, parse payload framing = .error rejection ∧ rejection.error = error ∧
        Recovers value rejection.id) ∧
    (∀ rejection, parse payload framing = .error rejection →
      (∀ value tail, ¬Contains payload framing value tail) ∨
        ∃ value tail, Contains payload framing value tail ∧ Refuses value rejection.error) := by
  refine ⟨fun envelope => ⟨contains_of_parse, ?_⟩, parse_malformed, ?_, ?_⟩
  · rintro ⟨members, contains, described⟩
    rw [parse_contains contains, (ofValue_eq_ok (contains.ordered members rfl)).mpr described]
  · intro value tail error contains refuses
    obtain ⟨refusal, read, rfl⟩ := refuses.ofValue contains.ordered
    refine ⟨⟨recoverId value, refusal⟩, ?_, rfl, recovers_recoverId value⟩
    rw [parse_contains contains, read]
  · intro rejection rejected
    by_cases some : ∃ value tail, Contains payload framing value tail
    · obtain ⟨value, tail, contains⟩ := some
      rw [parse_contains contains] at rejected
      cases read : Message.ofValue value with
      | error refusal =>
          rw [read] at rejected
          cases rejected
          exact .inr ⟨value, tail, contains, ofValue_refuses contains.ordered read⟩
      | ok message =>
          rw [read] at rejected
          cases rejected
    · exact .inl fun value tail contains => some ⟨value, tail, contains⟩

/-- A binary payload without a length is unreadable, and a number is no request. -/
theorem parse_grammar_number :
    (∃ rejection text, parse [] .binary = .error rejection ∧ rejection.id = .absent ∧
      rejection.error = .parsing text) ∧
    ∃ rejection, parse [49] .text = .error rejection ∧
      rejection.error = .invalidRequest "Invalid request schema"
        [⟨"", "request must be a JSON object"⟩] ∧ Recovers (.integer 1) rejection.id := by
  constructor
  · apply (parse_grammar [] .binary).2.1
    rintro value tail ⟨json, framed, -⟩
    have parts : split [] .binary = .ok ⟨json, tail⟩ := split_eq_ok.mpr framed
    cases parts
  · have read : Json.Value.ofBytes [49] = .ok (.integer 1) := rfl
    exact (parse_grammar [49] .text).2.2.1 (.integer 1) [] _
      ⟨[49], .text [49], Json.Value.ofBytes_eq_ok.mp read⟩ (.noObject nofun)

end Envelope

end RpcDispatch.Rpc
