import RpcDispatch.Json.Decoder
import RpcDispatch.Proofs.Json.Members

/-
This file says when decoders accept a value, and how a record is decoded from members with
different names and from items in the order of the fields.
-/

namespace RpcDispatch.Json

theorem map_eq_ok {ε α β : Type} {result : Except ε α} {convert : α → β} {value : β} :
    result.map convert = .ok value ↔ ∃ found, result = .ok found ∧ convert found = value := by
  cases result <;> simp [Except.map]

/-- A string is read from a string only. -/
theorem Decoder.string_ofValue_eq_ok {value : Value} {text : String} :
    Decoder.string.ofValue value = .ok text ↔ value = .string text := by
  cases value <;> simp [Decoder.string, Decoder.scalar]

/-- An untagged decoder reads what it takes from the value. -/
theorem Decoder.untagged_ofValue_eq_ok {α : Type} {typeName : String} {take? : Value → Option α}
    {value : Value} {result : α} :
    (Decoder.untagged typeName take?).ofValue value = .ok result ↔ take? value = some result := by
  simp only [Decoder.untagged]
  cases take? value <;> simp

/-- A converted result is read where the result is. -/
theorem Decoder.map_ofValue_eq_ok {α β : Type} {decoder : Decoder α} {convert : α → β}
    {value : Value} {result : β} : (Decoder.map convert decoder).ofValue value = .ok result ↔
      ∃ found, decoder.ofValue value = .ok found ∧ convert found = result :=
  map_eq_ok

/-! ### Members with different names -/

section

variable {α : Type}

/-- Members in order have names of their own. -/
theorem Sorted.nodup {members : List (String × α)} (sorted : Sorted members) :
    (members.map Prod.fst).Nodup :=
  List.pairwise_map.mpr (sorted.imp String.ne_of_lt)

/-- A member is looked up by its name, where names are distinct. -/
theorem lookup_of_mem {members : List (String × α)} (distinct : (members.map Prod.fst).Nodup)
    {member : String × α} (mem : member ∈ members) : members.lookup member.1 = some member.2 := by
  induction members with
  | nil => cases mem
  | cons first members ih =>
      rw [List.map_cons, List.nodup_cons] at distinct
      rw [lookup_member]
      rcases List.mem_cons.mp mem with rfl | later
      · rw [if_pos rfl]
      · have different : member.1 ≠ first.1 := by
          intro same
          exact distinct.1 (same ▸ List.mem_map_of_mem later)
        rw [if_neg different, ih distinct.2 later]

/-- One more member is found under its own name. -/
theorem lookup_snoc {taken : List (String × α)} {member : String × α}
    (fresh : taken.lookup member.1 = none) (name : String) :
    (taken ++ [member]).lookup name =
      if name = member.1 then some member.2 else taken.lookup name := by
  rw [List.lookup_append, lookup_member, List.lookup_nil]
  by_cases same : name = member.1
  · rw [if_pos same, if_pos same, same, fresh]
    rfl
  · rw [if_neg same, if_neg same, Option.or_none]

end

namespace Record

variable {δ α : Type} {record : Record δ α} {holds : List (String × Value) → δ → Prop}
  {fits : String × Value → Prop}

/-- A member of a field that is not set yet is given to the decoder of the field. -/
theorem takeMember_map {β : Type} {name : String} {field : Field δ} {draft : δ}
    (convert : β → δ → δ) (decoder : Decoder β) (found : record.field? name = some field)
    (decodes : field.decoder = .map convert decoder) (unset : field.isSet draft = false)
    (value : Value) :
    record.takeMember draft (name, value) =
      (decoder.ofValue value).map fun result => convert result draft := by
  simp only [takeMember, found, unset, decodes, Bool.false_eq_true, if_false, Decoder.map]
  cases decoder.ofValue value <;> rfl

/-- A member is not found among those before it, where names are distinct. -/
theorem lookup_fresh {taken members : List (String × Value)} {member : String × Value}
    (distinct : ((taken ++ member :: members).map Prod.fst).Nodup) :
    taken.lookup member.1 = none := by
  rw [List.lookup_eq_none_iff]
  intro other mem
  rw [List.map_append, List.map_cons, List.nodup_append] at distinct
  have different := distinct.2.2 other.1 (List.mem_map_of_mem mem) member.1 (by simp)
  simpa using Ne.symm different

/-- What a draft keeps when it takes one member, it keeps when it takes them all. -/
theorem foldlM_takeMember_holds
    (step : ∀ {taken draft member}, holds taken draft → taken.lookup member.1 = none →
      ∀ draft', record.takeMember draft member = .ok draft' → holds (taken ++ [member]) draft')
    {taken members : List (String × Value)} {draft draft' : δ} (start : holds taken draft)
    (distinct : ((taken ++ members).map Prod.fst).Nodup)
    (took : members.foldlM record.takeMember draft = .ok draft') :
    holds (taken ++ members) draft' := by
  induction members generalizing taken draft with
  | nil =>
      cases took
      rwa [List.append_nil]
  | cons member members ih =>
      rw [List.foldlM_cons] at took
      cases first : record.takeMember draft member with
      | error shape =>
          rw [first] at took
          cases took
      | ok next =>
          rw [first] at took
          have later := ih (step start (lookup_fresh distinct) next first)
            (by rwa [List.append_assoc]) took
          rwa [List.append_assoc] at later

/-- A draft that can take each member can take them all. -/
theorem foldlM_takeMember_ok
    (step : ∀ {taken draft member}, holds taken draft → taken.lookup member.1 = none →
      ∀ draft', record.takeMember draft member = .ok draft' → holds (taken ++ [member]) draft')
    (progress : ∀ {taken draft member}, holds taken draft → taken.lookup member.1 = none →
      fits member → ∃ draft', record.takeMember draft member = .ok draft')
    {taken members : List (String × Value)} {draft : δ} (start : holds taken draft)
    (distinct : ((taken ++ members).map Prod.fst).Nodup)
    (all : ∀ member ∈ members, fits member) :
    ∃ draft', members.foldlM record.takeMember draft = .ok draft' := by
  induction members generalizing taken draft with
  | nil => exact ⟨draft, rfl⟩
  | cons member members ih =>
      have fresh := lookup_fresh distinct
      obtain ⟨next, first⟩ := progress start fresh (all member (.head _))
      rw [List.foldlM_cons, first]
      exact ih (step start fresh next first) (by rwa [List.append_assoc])
        (fun other mem => all other (.tail _ mem))

/-! ### Items in order -/

/-- The items set the fields one after another.  The fields behind the last item have defaults. -/
inductive Gives : List (Field δ) → List Value → δ → δ → Prop where
  | nil {draft : δ} : Gives [] [] draft draft
  | item {field : Field δ} {fields : List (Field δ)} {item : Value} {items : List Value}
      {set : δ → δ} {draft final : δ} (decoded : field.decoder.ofValue item = .ok set)
      (later : Gives fields items (set draft) final) :
      Gives (field :: fields) (item :: items) draft final
  | default {field : Field δ} {fields : List (Field δ)} {draft final : δ}
      (hasDefault : field.hasDefault = true) (later : Gives fields [] draft final) :
      Gives (field :: fields) [] draft final

/-- Without items the draft stays as it is. -/
theorem Gives.unchanged {fields : List (Field δ)} {draft final : δ}
    (gives : Gives fields [] draft final) : draft = final := by
  induction fields with
  | nil =>
      cases gives
      rfl
  | cons field fields ih =>
      cases gives with
      | default hasDefault later => exact ih later

section

variable {β : Type} {name : String} {isSet : δ → Bool} {convert : β → δ → δ}
  {decoder : Decoder β} {hasDefault : Bool} {fields : List (Field δ)} {draft final : δ}

/-- The first field keeps its default, as there are no items, or the first item sets it. -/
theorem Gives.first {items : List Value}
    (gives : Gives (⟨name, isSet, .map convert decoder, hasDefault⟩ :: fields) items draft final) :
    (items = [] ∧ hasDefault = true ∧ draft = final) ∨
      ∃ item later result, items = item :: later ∧ decoder.ofValue item = .ok result ∧
        Gives fields later (convert result draft) final := by
  cases gives with
  | default hasDefault later => exact .inl ⟨rfl, hasDefault, later.unchanged⟩
  | item decoded later =>
      obtain ⟨result, read, rfl⟩ := Decoder.map_ofValue_eq_ok.mp decoded
      exact .inr ⟨_, _, result, rfl, read, later⟩

theorem Gives.set {item : Value} {later : List Value} {result : β}
    (read : decoder.ofValue item = .ok result)
    (gives : Gives fields later (convert result draft) final) :
    Gives (⟨name, isSet, .map convert decoder, hasDefault⟩ :: fields) (item :: later) draft final :=
  .item (Decoder.map_ofValue_eq_ok.mpr ⟨result, read, rfl⟩) gives

end

/-- The fields take all items exactly when the items set them. -/
theorem takeItems_eq_ok {index : Nat} {fields : List (Field δ)} {items : List Value}
    {draft final : δ} :
    record.takeItems index fields items draft = .ok (final, []) ↔
      Gives fields items draft final := by
  constructor
  · intro took
    induction fields generalizing index items draft with
    | nil =>
        cases took
        exact .nil
    | cons field fields ih =>
        cases items with
        | nil =>
            rw [takeItems] at took
            split at took
            · next hasDefault => exact .default hasDefault (ih took)
            · cases took
        | cons item items =>
            rw [takeItems] at took
            split at took
            · cases took
            · next set decoded => exact .item decoded (ih took)
  · intro gives
    induction gives generalizing index with
    | nil => rfl
    | item decoded later ih =>
        rw [takeItems, decoded]
        exact ih
    | default hasDefault later ih => rw [takeItems, if_pos hasDefault, ih]

/-- A record is read from a list when its items set the fields and the draft can be built. -/
theorem ofItems_eq_ok {surplus : String} {items : List Value} {value : α} :
    record.ofItems surplus items = .ok value ↔
      ∃ draft, Gives record.fields items record.empty draft ∧ record.build draft = .ok value := by
  constructor
  · intro decoded
    unfold ofItems at decoded
    split at decoded
    · cases decoded
    · next draft took => exact ⟨draft, takeItems_eq_ok.mp took, decoded⟩
    · cases decoded
  · rintro ⟨draft, gives, built⟩
    rw [ofItems, takeItems_eq_ok.mpr gives]
    exact built

end Record

end RpcDispatch.Json
