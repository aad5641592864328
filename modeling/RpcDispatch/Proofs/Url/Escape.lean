import RpcDispatch.Proofs.Text.Utf8
import RpcDispatch.Url.Escape

/-
This file says which characters stand in an escaped text, so that escaping it once more changes
nothing.
-/

namespace RpcDispatch.Url

/-- The characters that escapes are written with. -/
def IsEscapeChar (character : Char) : Prop :=
  character = '%' ∨ ∃ value < 16, character = upperHexDigit value

/-- The escape of a character is made of escape characters. -/
theorem isEscapeChar_of_mem_escapeChar {character escaped : Char}
    (member : escaped ∈ escapeChar character) : IsEscapeChar escaped := by
  obtain ⟨byte, _, inside⟩ := List.mem_flatMap.mp member
  have bound : byte.toNat < 256 := byte.toNat_lt
  simp only [escapeByte, List.mem_cons, List.not_mem_nil, or_false] at inside
  rcases inside with rfl | rfl | rfl
  · exact .inl rfl
  · exact .inr ⟨byte.toNat / 16, by omega, rfl⟩
  · exact .inr ⟨byte.toNat % 16, by omega, rfl⟩

/-- A character of an escaped text belongs to an escape or stood in the text. -/
theorem mem_escapeWhere {mustEscape : Char → Bool} {text : List Char} {character : Char}
    (member : character ∈ escapeWhere mustEscape text) :
    IsEscapeChar character ∨ character ∈ text ∧ mustEscape character = false := by
  obtain ⟨original, stood, inside⟩ := List.mem_flatMap.mp member
  split at inside
  · exact .inl (isEscapeChar_of_mem_escapeChar inside)
  · next kept =>
      rw [List.mem_singleton.mp inside]
      exact .inr ⟨stood, by simpa using kept⟩

theorem not_isEscapeChar_slash : ¬ IsEscapeChar '/' := by
  have digits : ∀ value < 16, '/' ≠ upperHexDigit value := by decide
  rintro (percent | ⟨value, small, same⟩)
  · cases percent
  · exact digits value small same

/-- A character that belongs to no escape stands first only where it stood first. -/
theorem escapeWhere_eq_cons {mustEscape : Char → Bool} {text rest : List Char} {character : Char}
    (other : ¬ IsEscapeChar character)
    (same : escapeWhere mustEscape text = character :: rest) :
    ∃ later, text = character :: later := by
  cases text with
  | nil => cases same
  | cons first later =>
      rw [escapeWhere, List.flatMap_cons] at same
      split at same
      · have filled : escapeChar first ≠ [] := by
          obtain ⟨byte, bytes, written⟩ :=
            List.exists_cons_of_length_pos (Text.Utf8.encodeChar_length_pos first)
          simp [escapeChar, written, escapeByte]
        obtain ⟨escaped, _, written⟩ := List.exists_cons_of_ne_nil filled
        rw [written] at same
        cases same
        exact absurd (isEscapeChar_of_mem_escapeChar (written ▸ List.mem_cons_self)) other
      · cases same
        exact ⟨later, rfl⟩

/-- A text without characters to escape is left alone. -/
theorem escapeWhere_of_safe {mustEscape : Char → Bool} {text : List Char}
    (safe : ∀ character ∈ text, mustEscape character = false) :
    escapeWhere mustEscape text = text := by
  induction text with
  | nil => rfl
  | cons character rest ih =>
      obtain ⟨first, later⟩ := List.forall_mem_cons.mp safe
      rw [escapeWhere, List.flatMap_cons, first]
      exact congrArg (character :: ·) (ih later)

/-- Nothing that must be escaped stands in a text once it is escaped, if escapes are left alone. -/
theorem safe_of_mem_escapeWhere {mustEscape : Char → Bool}
    (lenient : ∀ character, IsEscapeChar character → mustEscape character = false)
    {text : List Char} {character : Char} (member : character ∈ escapeWhere mustEscape text) :
    mustEscape character = false := by
  rcases mem_escapeWhere member with escape | ⟨_, safe⟩
  · exact lenient character escape
  · exact safe

/-- An escape character is safe in a path. -/
theorem isUnsafeInPath_escape (character : Char) (escape : IsEscapeChar character) :
    isUnsafeInPath character = false := by
  have digits : ∀ value < 16, isUnsafeInPath (upperHexDigit value) = false := by decide
  rcases escape with rfl | ⟨value, small, rfl⟩
  · rfl
  · exact digits value small

/-- An escape character is safe. -/
theorem isUnsafe_escape (character : Char) (escape : IsEscapeChar character) :
    isUnsafe character = false := by
  have safe := isUnsafeInPath_escape character escape
  rw [isUnsafeInPath, Bool.or_eq_false_iff] at safe
  exact safe.1

/-- What need not be escaped is a blank or visible. -/
theorem visible_of_safe {character : Char} (safe : isUnsafe character = false)
    (other : character ≠ ' ') : ' ' < character := by
  rw [isUnsafe, Bool.or_eq_false_iff, decide_eq_false_iff_not, Char.not_lt] at safe
  exact Char.not_le.mp fun low => other (Char.le_antisymm low safe.1)

/-- A character that is safe in a path is visible. -/
theorem visible_of_safe_path {character : Char} (safe : isUnsafeInPath character = false) :
    ' ' < character := by
  have parts := safe
  rw [isUnsafeInPath, Bool.or_eq_false_iff] at parts
  refine visible_of_safe parts.1 ?_
  rintro rfl
  cases safe

end RpcDispatch.Url
