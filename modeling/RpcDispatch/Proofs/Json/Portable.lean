import RpcDispatch.Proofs.Json.Decoding
import RpcDispatch.Proofs.Json.Printing

/-
This file says that a value that was read from a text can be written again, unless it has floats.
-/

namespace RpcDispatch.Json

/-- A value without floats. -/
inductive FloatFree : Value → Prop where
  | null : FloatFree .null
  | bool (value : Bool) : FloatFree (.bool value)
  | integer (value : Int) : FloatFree (.number (.integer value))
  | string (text : String) : FloatFree (.string text)
  | array {items : List Value} (inside : ∀ item ∈ items, FloatFree item) :
      FloatFree (.array items)
  | object {members : List (String × Value)} (inside : ∀ member ∈ members, FloatFree member.2) :
      FloatFree (.object members)

/-- The integers that numerals denote are those that a text keeps. -/
theorem Numeral.isExact_of_number? {numeral : Numeral} {value : Int}
    (denotes : numeral.number? = some (.integer value)) : Number.isExact value = true := by
  have noFloat {positive : Bool} {significand : Significand} {exponent : Int} :
      float? positive significand exponent ≠ some (.integer value) := by
    simp [float?]
  unfold number? at denotes
  split at denotes
  · dsimp only [scaled?] at denotes
    split at denotes
    · exact absurd denotes noFloat
    · split at denotes <;> cases denotes
  · split at denotes
    · exact absurd denotes noFloat
    · rcases Option.or_eq_some_iff.mp denotes with whole | ⟨_, broken⟩
      · rw [Number.isExact, Bool.and_eq_true, decide_eq_true_eq, decide_eq_true_eq]
        unfold integer? at whole
        split at whole
        · split at whole
          · cases whole
            omega
          · cases whole
        · split at whole
          · cases whole
            omega
          · cases whole
      · exact absurd broken noFloat

/-- Every entry of a container has a text of its own. -/
theorem Entries.text {α : Type} {entry : α → Bytes → Prop} {first : Bool} {items : List α}
    {written : Bytes} (entries : Entries entry first items written) {item : α}
    (member : item ∈ items) : ∃ part, entry item part := by
  induction entries with
  | none => cases member
  | entry apart form entries ih =>
      rcases List.mem_cons.mp member with rfl | later
      · exact ⟨_, form⟩
      · exact ih later

theorem mem_of_lookup {α : Type} {members : List (String × α)} {name : String} {value : α}
    (found : members.lookup name = some value) : (name, value) ∈ members := by
  induction members with
  | nil => cases found
  | cons first members ih =>
      rw [lookup_member] at found
      split at found
      · next same =>
          cases found
          rw [same]
          exact .head _
      · exact .tail _ (ih found)

/-- Every member of an object is one of the pairs that it was read from. -/
theorem Collects.mem {α : Type} {pairs members : List (String × α)}
    (collects : Collects pairs members) {member : String × α} (mem : member ∈ members) :
    member ∈ pairs := by
  have found := lookup_of_mem collects.sorted.nodup mem
  rw [collects.last] at found
  exact List.mem_reverse.mp (mem_of_lookup found)

/-- A form of a value is kept if the values inside it are, one level further down. -/
theorem ValueForm.portable {nested : Option (Value → Bytes → Prop)} {depth : Nat} {value : Value}
    {written : Bytes} (form : ValueForm nested value written)
    (nests : ∀ item, nested = some item → ∃ less, depth = less + 1 ∧
      ∀ value part, item value part → FloatFree value → Portable less value)
    (plain : FloatFree value) : Portable depth value := by
  cases form with
  | null => exact .null
  | true => exact .bool Bool.true
  | false => exact .bool Bool.false
  | number wellFormed denotes =>
      cases plain
      exact .integer (Numeral.isExact_of_number? denotes)
  | string form => exact .string _
  | array within entries =>
      obtain ⟨less, rfl, inner⟩ := nests _ within
      cases plain with
      | array inside =>
          apply Portable.array
          intro item member
          obtain ⟨part, form⟩ := entries.text member
          exact inner item part form (inside item member)
  | object within entries collects =>
      obtain ⟨less, rfl, inner⟩ := nests _ within
      cases plain with
      | object inside =>
          apply Portable.object collects.sorted
          intro member mem
          obtain ⟨part, form⟩ := entries.text (collects.mem mem)
          cases form with
          | member named blank blank' form => exact inner _ _ form (inside _ mem)

/-- A value without floats that has a text is kept by texts. -/
theorem ValueText.portable {depth : Nat} {value : Value} {written : Bytes}
    (form : ValueText depth value written) (plain : FloatFree value) : Portable depth value := by
  induction depth generalizing value written with
  | zero => exact ValueForm.portable form nofun plain
  | succ depth ih =>
      refine ValueForm.portable form ?_ plain
      rintro item ⟨⟩
      exact ⟨depth, rfl, fun value part form plain => ih form plain⟩

/-- A member of an object that was read has a text of its own, one level inside the object. -/
theorem DocumentText.member {members : List (String × Value)} {input : Bytes}
    (document : DocumentText (.object members) input) {member : String × Value}
    (mem : member ∈ members) : ∃ part, ValueText 126 member.2 part := by
  cases document with
  | document blank blank' form =>
      cases form with
      | object within entries collects =>
          cases within
          obtain ⟨_, form⟩ := entries.text (collects.mem mem)
          cases form with
          | member named blank blank' form => exact ⟨_, form⟩

end RpcDispatch.Json
