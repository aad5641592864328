import RpcDispatch.Json.Choice
import RpcDispatch.Proofs.Json.Typed

/-
This file says that types with variants are read from their printed forms: a variant from its name,
and a variant with fields from an object with its name in front of them.
-/

namespace RpcDispatch.Json

open Text.Utf8 (encodeChars)

variable {α : Type} {depth : Nat}

/-! ### Names -/

theorem Decoder.variant_reads {variants : List (String × α)} {name : String} {result : α}
    (listed : variants.lookup name = some result) :
    (Decoder.variant variants).Reads depth (stringChars name) result := by
  have took : (Decoder.variant variants).ofValue (.string name) = .ok result := by
    simp only [Decoder.variant, Decoder.scalar, listed]
  have reads : (Decoder.variant variants).Reads depth (Value.string name).chars result :=
    scalar_reads (.string name) took
  rwa [Value.chars] at reads

theorem Decoder.choice_reads {variants : List (String × α)} {name : String} {result : α}
    (listed : variants.lookup name = some result) :
    (Decoder.choice variants).Reads depth (stringChars name) result := by
  intro fuel rest short ends
  have read : (Decoder.variant variants).ofText fuel depth _ = _ :=
    Decoder.variant_reads listed fuel rest short ends
  obtain ⟨body, quoted⟩ := exists_quote name
  rw [quoted] at read ⊢
  exact read

/-! ### Tags -/

namespace Tagged

variable {tagged : Tagged α}

/-- The member with the tag names the variant. -/
theorem readNamed_tag {fuel members : Nat} {first : Bool} {lead : Bytes}
    (apart : EntryLead first lead) {name : String} {variant : Variant α}
    (listed : tagged.variants.lookup name = some variant)
    (short : (encodeChars (stringChars name)).length < fuel) {reversed : List (String × Value)}
    {rest : Bytes} (ends : Ends rest) :
    tagged.readNamed fuel depth (members + 1) first none reversed
        (lead ++ (encodeChars (memberChars tagged.tag (stringChars name)) ++ rest)) =
      tagged.readNamed fuel depth members false (some variant) reversed rest := by
  obtain ⟨quoted, next, named⟩ := nextMember_memberChars apart tagged.tag (stringChars name) rest
  have read : (Decoder.variant tagged.variants).ofText fuel depth _ = _ :=
    Decoder.variant_reads listed fuel rest short ends
  rw [readNamed, next]
  simp only [named, readColon_colon, read]
  rfl

/-- Another member is kept as it is. -/
theorem readNamed_other {fuel members : Nat} {first : Bool} {lead : Bytes}
    (apart : EntryLead first lead) {name : String} {value : Value} (other : name ≠ tagged.tag)
    (portable : Portable depth value) (short : (encodeChars value.chars).length < fuel)
    {found : Option (Variant α)} {reversed : List (String × Value)} {rest : Bytes}
    (ends : Ends rest) :
    tagged.readNamed fuel depth (members + 1) first found reversed
        (lead ++ (encodeChars (memberChars name value.chars) ++ rest)) =
      tagged.readNamed fuel depth members false found ((name, value) :: reversed) rest := by
  obtain ⟨quoted, next, named⟩ := nextMember_memberChars apart name value.chars rest
  have read : readValue fuel depth (encodeChars value.chars ++ rest) = .ok (value, rest) :=
    Decoder.value_reads portable fuel rest short ends
  rw [readNamed, next]
  simp only [named, if_neg other, readColon_colon, read]

theorem readNamed_others {members : List (String × Value)}
    (others : ∀ member ∈ members, member.1 ≠ tagged.tag ∧ Portable depth member.2)
    {fuel count : Nat} (short : (encodeChars (laterChars (membersChars members))).length < fuel)
    (enough : (encodeChars (laterChars (membersChars members))).length < count)
    (found : Option (Variant α)) (reversed : List (String × Value)) (rest : Bytes) :
    tagged.readNamed fuel depth count false found reversed
        (encodeChars (laterChars (membersChars members)) ++ 125 :: rest) =
      .ok ((found, reversed.reverse ++ members), 125 :: rest) := by
  obtain ⟨count, rfl⟩ := Nat.exists_eq_add_one_of_ne_zero (Nat.ne_zero_of_lt enough)
  induction members generalizing count reversed with
  | nil =>
      rw [readNamed, List.append_nil]
      rfl
  | cons member members ih =>
      obtain ⟨⟨other, portable⟩, others⟩ := List.forall_mem_cons.mp others
      have size := length_laterChars_cons member.1 member.2.chars (membersChars members)
      rw [membersChars] at short enough ⊢
      rw [encodeChars_laterChars_cons, readNamed_other entryLead_comma other portable (by omega)
        (ends_laterChars _ rest)]
      obtain ⟨count, rfl⟩ : ∃ less, count = less + 1 :=
        Nat.exists_eq_add_one_of_ne_zero (by omega)
      rw [ih others (by omega) _ count (by omega), List.reverse_cons, List.append_assoc]
      rfl

/-- A variant is read from an object with its name in front of the fields. -/
theorem decoder_reads {name : String} {variant : Variant α}
    (listed : tagged.variants.lookup name = some variant) {members : List (String × Value)}
    (others : ∀ member ∈ members, member.1 ≠ tagged.tag ∧ Portable depth member.2) {value : α}
    (built : variant.ofMembers members = .ok value) :
    tagged.decoder.Reads (depth + 1)
      (objectChars (memberChars tagged.tag (stringChars name) :: membersChars members)) value := by
  intro fuel rest short _
  have size := congrArg List.length (encodeChars_objectChars
    (memberChars tagged.tag (stringChars name) :: membersChars members) [])
  simp only [intercalate_eq, encodeChars_append, encodeChars_memberChars, List.length_append,
    List.length_cons] at size
  obtain ⟨count, rfl⟩ := Nat.exists_eq_add_one_of_ne_zero (Nat.ne_zero_of_lt short)
  rw [encodeChars_objectChars, intercalate_eq, encodeChars_append, List.append_assoc]
  change tagged.finish Variant.ofMembers Record.afterObject
    (tagged.readNamed (count + 1) depth (count + 1) true none []
      ([] ++ (encodeChars (memberChars tagged.tag (stringChars name)) ++
        (encodeChars (laterChars (membersChars members)) ++ 125 :: rest)))) = _
  rw [readNamed_tag (.first blanks_nil) listed (by omega) (ends_laterChars _ rest),
    readNamed_others others (by omega) (by omega)]
  simp only [finish, List.reverse_nil, List.nil_append, built]
  rfl

end Tagged

end RpcDispatch.Json
