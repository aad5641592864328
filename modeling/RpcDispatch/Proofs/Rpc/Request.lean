import RpcDispatch.Proofs.Json.Decoding
import RpcDispatch.Rpc.Envelope

/-
This file says which objects are decoded as requests, and that a decoded request has the members
of the object as its fields.
-/

namespace RpcDispatch.Rpc

/-- The identifier that a member `id`, if there is one, gives to a request. -/
inductive Identifies : Option Json.Value → Id → Prop where
  | missing : Identifies none .absent
  | null : Identifies (some .null) .absent
  | string (text : String) : Identifies (some (.string text)) (.string text)
  | integer {value : Int} (least : -0x8000000000000000 ≤ value)
      (most : value ≤ 0x7FFFFFFFFFFFFFFF) :
      Identifies (some (.number (.integer value))) (.integer value)

/-- What is declared to be an identifier is what the reader of identifiers takes. -/
theorem identifies_some_iff {value : Json.Value} {id : Id} :
    Identifies (some value) id ↔ Id.ofValue? value = some id := by
  constructor
  · intro identifies
    cases identifies with
    | null | string => rfl
    | integer least most => exact if_pos ⟨least, most⟩
  · intro found
    unfold Id.ofValue? at found
    split at found
    · split at found
      · next within =>
          cases found
          exact .integer within.1 within.2
      · cases found
    · cases found
      exact .string _
    · cases found
      exact .null
    · cases found

/-- A member identifies a request in one way. -/
theorem identifies_unique {value : Option Json.Value} {id id' : Id}
    (identifies : Identifies value id) (identifies' : Identifies value id') : id = id' := by
  cases identifies <;> cases identifies' <;> rfl

/-- The schema takes exactly the values that identify a request. -/
theorem isIdentifier_iff {value : Json.Value} :
    isIdentifier value = true ↔ ∃ id, Identifies (some value) id := by
  constructor
  · intro identifier
    unfold isIdentifier at identifier
    split at identifier
    · exact ⟨_, .null⟩
    · exact ⟨_, .string _⟩
    · rw [Bool.and_eq_true, decide_eq_true_eq, decide_eq_true_eq] at identifier
      exact ⟨_, .integer identifier.1 (by omega)⟩
    · cases identifier
  · rintro ⟨id, identifies⟩
    cases identifies with
    | null | string => rfl
    | integer least most =>
        rw [isIdentifier, Bool.and_eq_true, decide_eq_true_eq, decide_eq_true_eq]
        omega

namespace Message

/-- The fields of a request are the members of an object: null params and an absent identifier may
be missing. -/
structure Describes (members : List (String × Json.Value)) (message : Message) : Prop where
  jsonrpc : members.lookup "jsonrpc" = some (.string message.jsonrpc)
  method : members.lookup "method" = some (.string message.method)
  params : message.params = (members.lookup "params").getD .null
  id : Identifies (members.lookup "id") message.id

/-- The fields of a draft are the members that have been taken. -/
structure Holds (members : List (String × Json.Value)) (draft : Draft) : Prop where
  jsonrpc : members.lookup "jsonrpc" = draft.jsonrpc.map .string
  method : members.lookup "method" = draft.method.map .string
  params : members.lookup "params" = draft.params
  id : (members.lookup "id").isSome = draft.id.isSome
  identifies : Identifies (members.lookup "id") (draft.id.getD .absent)

/-- A draft without fields holds what no member says. -/
theorem holds_empty : Holds [] record.empty :=
  ⟨rfl, rfl, rfl, rfl, .missing⟩

/-- Whether a member can be the field of its name. -/
def Fits (member : String × Json.Value) : Prop :=
  (member.1 = "jsonrpc" ∨ member.1 = "method" → ∃ text, member.2 = .string text) ∧
    (member.1 = "id" → ∃ id, Identifies (some member.2) id)

/-! ### One member -/

/-- The version of a request is a text. -/
theorem takeMember_jsonrpc {draft : Draft} (unset : draft.jsonrpc = none) (value : Json.Value) :
    record.takeMember draft ("jsonrpc", value) =
      (Json.Decoder.string.ofValue value).map fun text => { draft with jsonrpc := some text } :=
  Json.Record.takeMember_map (fun text (draft : Draft) => { draft with jsonrpc := some text }) .string
    rfl rfl (congrArg Option.isSome unset) value

/-- So is its method. -/
theorem takeMember_method {draft : Draft} (unset : draft.method = none) (value : Json.Value) :
    record.takeMember draft ("method", value) =
      (Json.Decoder.string.ofValue value).map fun text => { draft with method := some text } :=
  Json.Record.takeMember_map (fun text (draft : Draft) => { draft with method := some text }) .string
    rfl rfl (congrArg Option.isSome unset) value

/-- Params may be any value. -/
theorem takeMember_params {draft : Draft} (unset : draft.params = none) (value : Json.Value) :
    record.takeMember draft ("params", value) = .ok { draft with params := some value } :=
  Json.Record.takeMember_map (fun value (draft : Draft) => { draft with params := some value }) .value
    rfl rfl (congrArg Option.isSome unset) value

/-- An identifier is read as one. -/
theorem takeMember_id {draft : Draft} (unset : draft.id = none) (value : Json.Value) :
    record.takeMember draft ("id", value) =
      (Id.decoder.ofValue value).map fun id => { draft with id := some id } :=
  Json.Record.takeMember_map (fun id (draft : Draft) => { draft with id := some id }) Id.decoder rfl rfl
    (congrArg Option.isSome unset) value

/-- Members with other names are passed over. -/
theorem takeMember_other {name : String} (jsonrpc : name ≠ "jsonrpc") (method : name ≠ "method")
    (params : name ≠ "params") (id : name ≠ "id") (draft : Draft) (value : Json.Value) :
    record.takeMember draft (name, value) = .ok draft := by
  have none : record.field? name = none := by
    simp [Json.Record.field?, record, Ne.symm jsonrpc, Ne.symm method, Ne.symm params, Ne.symm id]
  simp [Json.Record.takeMember, none]

variable {taken : List (String × Json.Value)} {draft : Draft}

/-- A field that no member has set can still be taken. -/
theorem Holds.unset (holds : Holds taken draft) :
    (taken.lookup "jsonrpc" = none → draft.jsonrpc = none) ∧
      (taken.lookup "method" = none → draft.method = none) ∧
      (taken.lookup "params" = none → draft.params = none) ∧
      (taken.lookup "id" = none → draft.id = none) := by
  refine ⟨fun none => ?_, fun none => ?_, fun none => ?_, fun none => ?_⟩
  · exact Option.map_eq_none_iff.mp (holds.jsonrpc.symm.trans none)
  · exact Option.map_eq_none_iff.mp (holds.method.symm.trans none)
  · exact holds.params.symm.trans none
  · have unset := holds.id
    rw [none] at unset
    exact Option.isSome_eq_false_iff.mp unset.symm |> Option.isNone_iff_eq_none.mp

/-- A member that is taken is held. -/
theorem Holds.takeMember (holds : Holds taken draft) {member : String × Json.Value}
    (fresh : taken.lookup member.1 = none) (draft' : Draft)
    (took : record.takeMember draft member = .ok draft') : Holds (taken ++ [member]) draft' := by
  obtain ⟨name, value⟩ := member
  have found := Json.lookup_snoc fresh
  obtain ⟨jsonrpcUnset, methodUnset, paramsUnset, idUnset⟩ := holds.unset
  by_cases isJsonrpc : name = "jsonrpc"
  · subst isJsonrpc
    rw [takeMember_jsonrpc (jsonrpcUnset fresh), Json.map_eq_ok] at took
    obtain ⟨text, decoded, rfl⟩ := took
    rw [Json.Decoder.string_ofValue_eq_ok] at decoded
    subst decoded
    exact ⟨by simp [found], by simp [found, holds.method], by simp [found, holds.params],
      by simp [found, holds.id], by simp [found, holds.identifies]⟩
  by_cases isMethod : name = "method"
  · subst isMethod
    rw [takeMember_method (methodUnset fresh), Json.map_eq_ok] at took
    obtain ⟨text, decoded, rfl⟩ := took
    rw [Json.Decoder.string_ofValue_eq_ok] at decoded
    subst decoded
    exact ⟨by simp [found, holds.jsonrpc], by simp [found], by simp [found, holds.params],
      by simp [found, holds.id], by simp [found, holds.identifies]⟩
  by_cases isParams : name = "params"
  · subst isParams
    rw [takeMember_params (paramsUnset fresh)] at took
    cases took
    exact ⟨by simp [found, holds.jsonrpc], by simp [found, holds.method], by simp [found],
      by simp [found, holds.id], by simp [found, holds.identifies]⟩
  by_cases isId : name = "id"
  · subst isId
    rw [takeMember_id (idUnset fresh), Json.map_eq_ok] at took
    obtain ⟨id, decoded, rfl⟩ := took
    have identifies := identifies_some_iff.mpr (Json.Decoder.untagged_ofValue_eq_ok.mp decoded)
    exact ⟨by simp [found, holds.jsonrpc], by simp [found, holds.method],
      by simp [found, holds.params], by simp [found], by simpa [found] using identifies⟩
  · rw [takeMember_other isJsonrpc isMethod isParams isId] at took
    cases took
    exact ⟨by simp [found, Ne.symm isJsonrpc, holds.jsonrpc],
      by simp [found, Ne.symm isMethod, holds.method],
      by simp [found, Ne.symm isParams, holds.params], by simp [found, Ne.symm isId, holds.id],
      by simp [found, Ne.symm isId, holds.identifies]⟩

/-- A member that fits its field is taken. -/
theorem Holds.takes (holds : Holds taken draft) {member : String × Json.Value}
    (fresh : taken.lookup member.1 = none) (fits : Fits member) :
    ∃ draft', record.takeMember draft member = .ok draft' := by
  obtain ⟨name, value⟩ := member
  obtain ⟨jsonrpcUnset, methodUnset, paramsUnset, idUnset⟩ := holds.unset
  obtain ⟨textual, identifier⟩ := fits
  by_cases isJsonrpc : name = "jsonrpc"
  · subst isJsonrpc
    obtain ⟨text, rfl⟩ := textual (.inl rfl)
    exact ⟨_, takeMember_jsonrpc (jsonrpcUnset fresh) _⟩
  by_cases isMethod : name = "method"
  · subst isMethod
    obtain ⟨text, rfl⟩ := textual (.inr rfl)
    exact ⟨_, takeMember_method (methodUnset fresh) _⟩
  by_cases isParams : name = "params"
  · subst isParams
    exact ⟨_, takeMember_params (paramsUnset fresh) value⟩
  by_cases isId : name = "id"
  · subst isId
    obtain ⟨id, identifies⟩ := identifier rfl
    have decoded : Id.decoder.ofValue value = .ok id :=
      Json.Decoder.untagged_ofValue_eq_ok.mpr (identifies_some_iff.mp identifies)
    exact ⟨_, (takeMember_id (idUnset fresh) value).trans (congrArg _ decoded)⟩
  · exact ⟨draft, takeMember_other isJsonrpc isMethod isParams isId draft value⟩

/-! ### All members -/

/-- A draft becomes the message that its members describe, and no other one. -/
theorem build_eq_ok {members : List (String × Json.Value)} (holds : Holds members draft)
    {message : Message} : record.build draft = .ok message ↔ Describes members message := by
  obtain ⟨jsonrpc, method, params, id⟩ := draft
  obtain ⟨jsonrpc', method', params', id'⟩ := message
  constructor
  · intro built
    cases jsonrpc with
    | none => cases built
    | some jsonrpc =>
        cases method with
        | none => cases built
        | some method =>
            cases built
            exact ⟨holds.jsonrpc, holds.method, by rw [holds.params], holds.identifies⟩
  · rintro ⟨hasJsonrpc, hasMethod, hasParams, hasId⟩
    obtain ⟨text, rfl, isText⟩ := Option.map_eq_some_iff.mp (holds.jsonrpc.symm.trans hasJsonrpc)
    obtain ⟨name, rfl, isName⟩ := Option.map_eq_some_iff.mp (holds.method.symm.trans hasMethod)
    have sameId := identifies_unique holds.identifies hasId
    rw [holds.params] at hasParams
    simp only at isText isName hasParams sameId
    cases isText
    cases isName
    subst hasParams sameId
    rfl

/-- A request is decoded from an object exactly when its fields are the members. -/
theorem decoder_eq_ok {members : List (String × Json.Value)} (sorted : Json.Sorted members)
    {message : Message} :
    decoder.ofValue (.object members) = .ok message ↔ Describes members message := by
  have decodes : decoder.ofValue (.object members) = record.ofMembers members := rfl
  rw [decodes, Json.Record.ofMembers]
  constructor
  · intro decoded
    cases took : members.foldlM record.takeMember record.empty with
    | error shape =>
        rw [took] at decoded
        cases decoded
    | ok draft =>
        rw [took] at decoded
        have holds := Json.Record.foldlM_takeMember_holds
          (fun holds fresh => holds.takeMember fresh) holds_empty
          sorted.nodup took
        exact (build_eq_ok holds).mp decoded
  · intro describes
    have fits : ∀ member ∈ members, Fits member := by
      intro member mem
      have found := Json.lookup_of_mem sorted.nodup mem
      constructor
      · rintro (same | same)
        · rw [same, describes.jsonrpc] at found
          exact ⟨_, (Option.some.inj found).symm⟩
        · rw [same, describes.method] at found
          exact ⟨_, (Option.some.inj found).symm⟩
      · intro same
        rw [same] at found
        exact ⟨_, found ▸ describes.id⟩
    obtain ⟨draft, took⟩ := Json.Record.foldlM_takeMember_ok
      (fun holds fresh => holds.takeMember fresh) (fun holds fresh => holds.takes fresh)
      holds_empty sorted.nodup fits
    have holds := Json.Record.foldlM_takeMember_holds
          (fun holds fresh => holds.takeMember fresh) holds_empty sorted.nodup
      took
    rw [took]
    exact (build_eq_ok holds).mpr describes

end Message

end RpcDispatch.Rpc
