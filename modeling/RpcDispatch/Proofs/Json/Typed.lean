import RpcDispatch.Proofs.Json.Printing
import RpcDispatch.Proofs.Json.Reading
import Mathlib.Data.List.DropRight

/-
This file says what typed decoders read.  On one side there is a property of whatever a decoder
reads, in any of the forms that it accepts; on the other side there is the result that it reads from
a printed form.
-/

namespace RpcDispatch.Json

open Text.Utf8 (encodeChar encodeChars)

variable {α β δ : Type} {depth : Nat}

/-! ### What is read from any text -/

/-- Whatever the decoder reads has the property, if containers nest at most `depth` deep there. -/
def Decoder.Yields (decoder : Decoder α) (depth : Nat) (holds : α → Prop) : Prop :=
  ∀ fuel input result rest, decoder.ofText fuel depth input = .ok (result, rest) → holds result

/-- A text of null begins with its word. -/
theorem lead_null {written : Bytes} (form : ValueText depth .null written) (rest : Bytes) :
    Lead.ofInput (written ++ rest) = .nullWord := by
  cases depth <;> cases form <;> rfl

namespace Decoder

variable {decoder : Decoder α} {holds : α → Prop}

/-- A decoder whose results have a property has every weaker one. -/
theorem Yields.mono (yields : decoder.Yields depth holds) {weaker : α → Prop}
    (weaken : ∀ result, holds result → weaker result) : decoder.Yields depth weaker :=
  fun fuel input result rest read => weaken result (yields fuel input result rest read)

/-- What holds of a converted result is said of the result before its conversion. -/
theorem Yields.map {holds : β → Prop} {convert : α → β}
    (yields : decoder.Yields depth fun result => holds (convert result)) :
    (Decoder.map convert decoder).Yields depth holds := by
  intro fuel input result rest read
  obtain ⟨⟨found, left⟩, taken, same⟩ := map_eq_ok.mp read
  cases same
  exact yields fuel input found _ taken

/-- The result of a scalar decoder was taken from some value. -/
theorem scalar_yields {expected : String} {take : Value → Except Mismatch α} :
    (scalar expected take).Yields depth fun result => ∃ value, take value = .ok result := by
  intro fuel input result rest read
  simp only [scalar] at read
  split at read
  · cases read
  · cases read
  · cases read
  · split at read
    · cases read
    · split at read
      · next took =>
          cases read
          exact ⟨_, took⟩
      · cases read

/-- An integer is read only between its bounds. -/
theorem integer_yields {least greatest : Int} {typeName : String} :
    (integer least greatest typeName).Yields depth fun value =>
      least ≤ value ∧ value ≤ greatest := by
  refine scalar_yields.mono ?_
  rintro result ⟨value, took⟩
  split at took
  · split at took
    · next bounds =>
        cases took
        exact bounds
    · cases took
  · cases took

/-- A value is read only from one of its texts. -/
theorem value_yields : Decoder.value.Yields depth fun value =>
    ∃ written, ValueText depth value written := by
  intro fuel input value rest read
  obtain ⟨written, form, -⟩ := (takesValue_readValue fuel depth).sound read
  exact ⟨written, form⟩

/-- The result of an untagged decoder was taken from some value. -/
theorem untagged_yields {typeName : String} {take? : Value → Option α} :
    (untagged typeName take?).Yields depth fun result => ∃ value, take? value = some result := by
  intro fuel input result rest read
  simp only [untagged] at read
  split at read
  · cases read
  · split at read
    · next took =>
        cases read
        exact ⟨_, took⟩
    · cases read

/-- Null is read as no value, and never as a value that is null. -/
theorem option_value_yields : (option Decoder.value).Yields depth fun result =>
    ∀ value ∈ result, value ≠ .null ∧ ∃ written, ValueText depth value written := by
  intro fuel input result rest read
  simp only [option] at read
  split at read
  · obtain ⟨_, _, same⟩ := map_eq_ok.mp read
    cases same
    exact nofun
  · next notNull =>
      obtain ⟨⟨found, left⟩, taken, same⟩ := map_eq_ok.mp read
      cases same
      rintro value ⟨⟩
      obtain ⟨written, form, here⟩ := (takesValue_readValue fuel depth).sound taken
      refine ⟨?_, written, form⟩
      rintro rfl
      apply notNull
      have again : skipBlanks (skipBlanks input) = skipBlanks input := List.dropWhile_idempotent ..
      rw [← again, here]
      exact lead_null form _

end Decoder

namespace Record

variable {record : Record δ α} {holds : δ → Prop}

/-- A field that is read keeps what holds of drafts. -/
def Keeps (record : Record δ α) (depth : Nat) (holds : δ → Prop) : Prop :=
  ∀ field ∈ record.fields, field.decoder.Yields depth fun set =>
    ∀ draft, holds draft → holds (set draft)

/-- Reading the fields by position keeps what every field keeps. -/
theorem readInOrder_yields (keeps : record.Keeps depth holds) {fuel index : Nat}
    {fields : List (Field δ)} (inside : ∀ field ∈ fields, field ∈ record.fields)
    {draft final : δ} (start : holds draft) {input rest : Bytes}
    (read : record.readInOrder fuel depth index fields draft input = .ok (final, rest)) :
    holds final := by
  induction fields generalizing index draft input with
  | nil =>
      cases read
      exact start
  | cons field fields ih =>
      obtain ⟨first, others⟩ := List.forall_mem_cons.mp inside
      rw [readInOrder] at read
      split at read
      · cases read
      · split at read
        · exact ih others start read
        · cases read
      · split at read
        · cases read
        · next taken => exact ih others (keeps field first _ _ _ _ taken draft start) read

/-- Reading the fields by name keeps what every field keeps. -/
theorem readNamed_yields (keeps : record.Keeps depth holds) {fuel members : Nat} {first : Bool}
    {draft final : δ} (start : holds draft) {input rest : Bytes}
    (read : record.readNamed fuel depth members first draft input = .ok (final, rest)) :
    holds final := by
  induction members generalizing first draft input with
  | zero => cases read
  | succ members ih =>
      rw [readNamed] at read
      split at read
      · cases read
      · cases read
        exact start
      · split at read
        · cases read
        split at read
        · -- a member without a field is passed over
          split at read
          · cases read
          split at read
          · cases read
          · exact ih start read
        · next field found =>
            have member := List.mem_of_find?_eq_some found
            split at read
            · cases read
            split at read
            · cases read
            split at read
            · cases read
            · next taken => exact ih (keeps field member _ _ _ _ taken draft start) read

/-- A record that was read was built from the draft of its fields. -/
theorem built_of_finish {close : Bytes → Except Failure (Unit × Bytes)} {after : Bytes → Bytes}
    {result : Except Failure (δ × Bytes)} {value : α} {rest : Bytes}
    (read : record.finish close after result = .ok (value, rest)) :
    ∃ draft left, result = .ok (draft, left) ∧ record.build draft = .ok value := by
  rcases result with failure | ⟨draft, left⟩
  · cases read
  · simp only [finish] at read
    split at read
    · cases read
    · next built =>
        obtain ⟨_, _, same⟩ := map_eq_ok.mp read
        cases same
        exact ⟨draft, left, rfl, built⟩

/-- What holds of every draft that was read decides what is yielded, from an object as from an
array. -/
theorem decoder_yields (keeps : record.Keeps depth holds) (start : holds record.empty)
    {yields : α → Prop}
    (builds : ∀ draft value, holds draft → record.build draft = .ok value → yields value) :
    record.decoder.Yields (depth + 1) yields := by
  intro fuel input value rest read
  simp only [decoder, ofText] at read
  split at read
  · cases read
  · next same =>
      cases same
      obtain ⟨draft, _, taken, built⟩ := built_of_finish read
      exact builds draft value (readInOrder_yields keeps (fun _ member => member) start taken) built
  · next same =>
      cases same
      obtain ⟨draft, _, taken, built⟩ := built_of_finish read
      exact builds draft value (readNamed_yields keeps start taken) built
  all_goals cases read

end Record

/-! ### What is read from a printed form -/

/-- The decoder reads the result from these characters, whatever stands behind them that may stand
behind a value. -/
def Decoder.Reads (decoder : Decoder α) (depth : Nat) (chars : List Char) (result : α) : Prop :=
  ∀ fuel rest, (encodeChars chars).length < fuel → Ends rest →
    decoder.ofText fuel depth (encodeChars chars ++ rest) = .ok (result, rest)

namespace Decoder

variable {decoder : Decoder α} {chars : List Char} {result : α}

/-- A converted result is read from the same characters. -/
theorem Reads.map (reads : decoder.Reads depth chars result) (convert : α → β) :
    (Decoder.map convert decoder).Reads depth chars (convert result) := by
  intro fuel rest short ends
  simp only [Decoder.map, reads fuel rest short ends]
  rfl

/-- A portable value is read from its printed form. -/
theorem value_reads {value : Value} (portable : Portable depth value) :
    Decoder.value.Reads depth value.chars value :=
  fun fuel _ short ends =>
    (takesValue_readValue fuel depth).item.complete portable.valueText short ends

/-- What is taken from a portable value is read from its printed form. -/
theorem untagged_reads {typeName : String} {take? : Value → Option α} {value : Value}
    (portable : Portable depth value) (took : take? value = some result) :
    (untagged typeName take?).Reads depth value.chars result := by
  intro fuel rest short ends
  have read : readValue fuel depth _ = _ := value_reads portable fuel rest short ends
  simp only [untagged, read, took]

/-- What is taken from a portable scalar is read from its printed form. -/
theorem scalar_reads {expected : String} {take : Value → Except Mismatch α} {value : Value}
    (portable : Portable 0 value) (took : take value = .ok result) :
    (scalar expected take).Reads depth value.chars result := by
  intro fuel rest short ends
  have form := portable.valueText
  have here : skipBlanks (encodeChars value.chars ++ rest) = encodeChars value.chars ++ rest :=
    (takesValue_readValue fuel 0).skipBlanks_eq form blanks_nil rest
  have read := readValueWith_complete .none form short ends here
  simp only [scalar, here]
  cases lead : Lead.ofInput (encodeChars value.chars ++ rest)
  case absent | bracket | brace =>
    -- nothing is read from there
    simp only [readValueWith, here, lead] at read
    cases read
  all_goals simp only [read, took]

/-- A string is read from its printed form. -/
theorem string_reads (text : String) :
    Decoder.string.Reads depth (stringChars text) text := by
  have reads : Decoder.string.Reads depth (Value.string text).chars text :=
    scalar_reads (.string text) rfl
  rwa [Value.chars] at reads

/-- An exact integer between the bounds is read from its digits. -/
theorem integer_reads {least greatest value : Int} {typeName : String}
    (bounds : least ≤ value ∧ value ≤ greatest) (exact : Number.isExact value = true) :
    (integer least greatest typeName).Reads depth (integerChars value) value := by
  have reads : (integer least greatest typeName).Reads depth (Value.integer value).chars value :=
    scalar_reads (.integer exact) (if_pos bounds)
  rwa [Value.integer, Value.chars, Number.chars] at reads

/-- A value that is not null is read as itself where null stands for no value. -/
theorem option_value_reads {value : Value} (portable : Portable depth value)
    (notNull : value ≠ .null) :
    (option Decoder.value).Reads depth value.chars (some value) := by
  intro fuel rest short ends
  have read := value_reads portable fuel rest short ends
  have here : skipBlanks (encodeChars value.chars ++ rest) = encodeChars value.chars ++ rest :=
    (takesValue_readValue fuel depth).skipBlanks_eq portable.valueText blanks_nil rest
  simp only [option, here, read]
  split
  · next lead =>
      -- what begins with the word of null is read as null
      have null : readValue fuel depth (encodeChars value.chars ++ rest) = .ok (value, rest) := read
      cases depth <;>
        · simp only [readValue, readValueWith, here, lead] at null
          obtain ⟨_, _, same⟩ := map_eq_ok.mp null
          exact absurd (congrArg Prod.fst same).symm notNull
  · rfl

end Decoder

/-! ### Members -/

/-- A printed member is its name, a colon and its value. -/
theorem encodeChars_memberChars (name : String) (chars : List Char) :
    encodeChars (memberChars name chars) =
      encodeChars (stringChars name) ++ 58 :: encodeChars chars := by
  have colon : encodeChar ':' = [58] := rfl
  rw [memberChars, encodeChars_append, encodeChars_cons, colon, List.singleton_append]

/-- A printed text begins with its quote. -/
theorem exists_quote (text : String) :
    ∃ body, encodeChars (stringChars text) = 34 :: body := by
  have form := stringText_stringChars text
  generalize encodeChars (stringChars text) = written at form
  cases form
  exact ⟨_, rfl⟩

/-- A printed member is found behind what separates it from the one before. -/
theorem nextMember_memberChars {first : Bool} {lead : Bytes} (apart : EntryLead first lead)
    (name : String) (chars : List Char) (rest : Bytes) :
    ∃ quoted, nextMember first (lead ++ (encodeChars (memberChars name chars) ++ rest)) =
        .ok (true, quoted) ∧
      readString quoted = .ok (name, 58 :: (encodeChars chars ++ rest)) := by
  obtain ⟨body, opened⟩ := exists_quote name
  refine ⟨_, ?_, readString_eq_ok.mpr ⟨_, opened ▸ stringText_stringChars name, rfl⟩⟩
  rw [encodeChars_memberChars, List.append_assoc, opened]
  exact separates_nextMember.entry _ apart rfl

theorem readColon_colon (rest : Bytes) : readColon (58 :: rest) = .ok ((), rest) :=
  readColon_eq_ok.mpr ⟨[], blanks_nil, rfl⟩

/-- The members of an object after the first one. -/
def laterChars (written : List (List Char)) : List Char :=
  written.flatMap fun chars => ',' :: chars

/-- The first member stands bare, and a comma stands before every later one. -/
theorem intercalate_eq (first : List Char) (written : List (List Char)) :
    [','].intercalate (first :: written) = first ++ laterChars written :=
  intercalate_cons first written

/-- A later member is a comma and the member. -/
theorem encodeChars_laterChars_cons (chars : List Char) (written : List (List Char))
    (rest : Bytes) :
    encodeChars (laterChars (chars :: written)) ++ rest =
      [44] ++ (encodeChars chars ++ (encodeChars (laterChars written) ++ rest)) := by
  have comma : encodeChar ',' = [44] := rfl
  rw [laterChars, List.flatMap_cons, encodeChars_append, encodeChars_cons, comma]
  simp [laterChars]

/-- What follows a later member is shorter by more than the value of that member. -/
theorem length_laterChars_cons (name : String) (chars : List Char) (written : List (List Char)) :
    (encodeChars chars).length + (encodeChars (laterChars written)).length <
      (encodeChars (laterChars (memberChars name chars :: written))).length := by
  have same := encodeChars_laterChars_cons (memberChars name chars) written []
  rw [List.append_nil, List.append_nil, encodeChars_memberChars] at same
  simp only [same, List.length_append, List.length_cons]
  omega

theorem entryLead_comma : EntryLead false [44] :=
  .later blanks_nil blanks_nil

/-- A value may end where the later members or the end of the object begin. -/
theorem ends_laterChars (written : List (List Char)) (rest : Bytes) :
    Ends (encodeChars (laterChars written) ++ 125 :: rest) := by
  cases written with
  | nil => exact ends_closer (by decide)
  | cons chars written =>
      rw [encodeChars_laterChars_cons]
      intro byte mem
      cases mem
      decide

/-- A printed object is its members between braces. -/
theorem encodeChars_objectChars (written : List (List Char)) (rest : Bytes) :
    encodeChars (objectChars written) ++ rest =
      123 :: (encodeChars ([','].intercalate written) ++ 125 :: rest) := by
  have brace : encodeChar '{' = [123] := rfl
  have brace' : encodeChars ['}'] = [125] := rfl
  rw [objectChars, List.cons_append, encodeChars_cons, encodeChars_append, brace, brace']
  simp

/-! ### Records -/

namespace Record

variable {record : Record δ α}

/-- The printed members set the fields one after another. -/
inductive Fills (record : Record δ α) (depth : Nat) : δ → List (List Char) → δ → Prop where
  | nil {draft : δ} : Fills record depth draft [] draft
  | cons {draft final : δ} {name : String} {field : Field δ} {set : δ → δ} {chars : List Char}
      {written : List (List Char)} (found : record.field? name = some field)
      (unset : field.isSet draft = false) (reads : field.decoder.Reads depth chars set)
      (fills : Fills record depth (set draft) written final) :
      Fills record depth draft (memberChars name chars :: written) final

/-- One printed member sets the field of its name. -/
theorem Fills.field {draft final : δ} {name : String} {isSet : δ → Bool} {convert : β → δ → δ}
    {decoder : Decoder β} {hasDefault : Bool} {chars : List Char} {result : β}
    (found : record.field? name = some ⟨name, isSet, .map convert decoder, hasDefault⟩)
    (unset : isSet draft = false) (reads : decoder.Reads depth chars result)
    (same : convert result draft = final) :
    record.Fills depth draft [memberChars name chars] final := by
  subst same
  exact .cons found unset (reads.map convert) .nil

/-- Members that fill a draft one after another fill it together. -/
theorem Fills.append {draft middle final : δ} {written others : List (List Char)}
    (fills : record.Fills depth draft written middle)
    (later : record.Fills depth middle others final) :
    record.Fills depth draft (written ++ others) final := by
  induction fills with
  | nil => exact later
  | cons found unset reads _ ih => exact .cons found unset reads (ih later)

/-- The reader takes one printed member with what stands before it and sets its field. -/
theorem readNamed_member {fuel members : Nat} {first : Bool} {lead : Bytes}
    (apart : EntryLead first lead) {name : String} {field : Field δ} {draft : δ} {set : δ → δ}
    {chars : List Char} (found : record.field? name = some field)
    (unset : field.isSet draft = false) (reads : field.decoder.Reads depth chars set)
    (short : (encodeChars chars).length < fuel) {rest : Bytes} (ends : Ends rest) :
    record.readNamed fuel depth (members + 1) first draft
        (lead ++ (encodeChars (memberChars name chars) ++ rest)) =
      record.readNamed fuel depth members false (set draft) rest := by
  obtain ⟨quoted, next, named⟩ := nextMember_memberChars apart name chars rest
  rw [readNamed, next]
  simp only [named, found, unset, readColon_colon, reads fuel rest short ends]
  rfl

/-- The reader takes the later members up to the closing brace. -/
theorem readNamed_later {draft final : δ} {written : List (List Char)}
    (fills : record.Fills depth draft written final) {fuel members : Nat}
    (short : (encodeChars (laterChars written)).length < fuel)
    (enough : (encodeChars (laterChars written)).length < members) (rest : Bytes) :
    record.readNamed fuel depth members false draft
        (encodeChars (laterChars written) ++ 125 :: rest) = .ok (final, 125 :: rest) := by
  induction fills generalizing members with
  | nil =>
      obtain ⟨members, rfl⟩ := Nat.exists_eq_add_one_of_ne_zero (Nat.ne_zero_of_lt enough)
      rw [readNamed]
      rfl
  | @cons draft final name field set chars written found unset reads fills ih =>
      obtain ⟨members, rfl⟩ := Nat.exists_eq_add_one_of_ne_zero (Nat.ne_zero_of_lt enough)
      have size := length_laterChars_cons name chars written
      rw [encodeChars_laterChars_cons, readNamed_member entryLead_comma found unset reads (by omega)
        (ends_laterChars written rest)]
      exact ih (by omega) (by omega)

/-- The reader takes all the members up to the closing brace. -/
theorem readNamed_fills {draft final : δ} {written : List (List Char)}
    (fills : record.Fills depth draft written final) {fuel : Nat}
    (short : (encodeChars ([','].intercalate written)).length < fuel) (rest : Bytes) :
    record.readNamed fuel depth fuel true draft
        (encodeChars ([','].intercalate written) ++ 125 :: rest) = .ok (final, 125 :: rest) := by
  obtain ⟨fuel, rfl⟩ := Nat.exists_eq_add_one_of_ne_zero (Nat.ne_zero_of_lt short)
  cases fills with
  | nil =>
      rw [readNamed]
      rfl
  | @cons _ _ name field set chars written found unset reads fills =>
      rw [intercalate_eq, encodeChars_append, encodeChars_memberChars] at short
      simp only [List.length_append, List.length_cons] at short
      rw [intercalate_eq, encodeChars_append, List.append_assoc]
      exact (readNamed_member (.first blanks_nil) found unset reads (by omega)
        (ends_laterChars written rest)).trans (readNamed_later fills (by omega) (by omega) rest)

/-- A record is read from its printed members. -/
theorem decoder_reads {written : List (List Char)} {final : δ} {value : α}
    (fills : record.Fills depth record.empty written final)
    (built : record.build final = .ok value) :
    record.decoder.Reads (depth + 1) (objectChars written) value := by
  intro fuel rest short _
  have size := congrArg List.length (encodeChars_objectChars written [])
  simp only [List.length_append, List.length_cons] at size
  have read := readNamed_fills fills (show _ < fuel by omega) rest
  rw [encodeChars_objectChars]
  change record.finish (fun rest => .ok ((), rest.tail)) afterObject
    (record.readNamed fuel depth fuel true record.empty
      (encodeChars ([','].intercalate written) ++ 125 :: rest)) = _
  rw [read]
  simp only [finish, built]
  rfl

end Record

/-! ### Whole texts -/

/-- What is printed without blanks around it is read as a whole text. -/
theorem Decoder.Reads.ofBytes {decoder : Decoder α} {chars : List Char} {result : α}
    (reads : decoder.Reads maxDepth chars result) :
    decoder.ofBytes (encodeChars chars) = .ok result := by
  have ends : Ends [] := nofun
  have read := reads _ [] (Nat.lt_succ_self _) ends
  rw [List.append_nil] at read
  simp only [Decoder.ofBytes, readDocument, read]
  rfl

/-- What is read as a whole text has the property of whatever the decoder reads. -/
theorem Decoder.Yields.ofBytes {decoder : Decoder α} {holds : α → Prop}
    (yields : decoder.Yields maxDepth holds) {input : Bytes} {result : α}
    (read : decoder.ofBytes input = .ok result) : holds result := by
  unfold Decoder.ofBytes readDocument at read
  split at read
  · cases read
  · next taken =>
      split at read
      · cases read
        exact yields _ _ _ _ taken
      · cases read

end RpcDispatch.Json
