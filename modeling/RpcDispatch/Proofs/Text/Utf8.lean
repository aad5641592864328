import RpcDispatch.Text.Utf8
import Mathlib.Data.Nat.Init

/-
This file says that a byte sequence starts with a character exactly when it starts with the bytes
of that character, so that reading a text undoes writing it and accepts nothing else.
-/

namespace RpcDispatch.Text.Utf8

/-! ### One character -/

theorem toNat_toUInt8 {value : Nat} (small : value < 256) : value.toUInt8.toNat = value :=
  Nat.mod_eq_of_lt small

theorem toUInt8_eq {value : Nat} {byte : UInt8} (same : value = byte.toNat) :
    value.toUInt8 = byte := by
  subst same
  exact UInt8.ofNat_toNat

/-- Continuation bytes are those between the two bounds. -/
theorem isContinuation_iff {byte : UInt8} :
    isContinuation byte = true ↔ 0x80 ≤ byte.toNat ∧ byte.toNat < 0xC0 := by
  simp [isContinuation, UInt8.le_iff_toNat_le, UInt8.lt_iff_toNat_lt]

/-- A valid code is the code of its character. -/
theorem toNat_ofNat {code : Nat} (valid : code.isValidChar) : (Char.ofNat code).toNat = code := by
  rw [Char.ofNat, dif_pos valid]
  rfl

/-- Codes end at the last plane. -/
theorem toNat_lt (character : Char) : character.toNat < 0x110000 := by
  rcases character.valid with low | high
  · exact Nat.lt_trans low (by decide)
  · exact high.2

/-- A code is a character when it is not below the least one and is valid. -/
theorem scalar?_eq_some {least code : Nat} {character : Char} :
    scalar? least code = some character ↔ least ≤ code ∧ character.toNat = code := by
  unfold scalar?
  constructor
  · intro found
    split at found
    · next fits =>
        cases found
        exact ⟨fits.1, toNat_ofNat fits.2⟩
    · cases found
  · rintro ⟨enough, rfl⟩
    rw [if_pos ⟨enough, character.valid⟩, Char.ofNat_toNat]

/-- Where a scalar is followed by more bytes, it and they are what is found. -/
theorem scalar?_map_eq_some {least code : Nat} {character : Char} {after rest : Bytes}
    (found : (scalar? least code).map (·, after) = some (character, rest)) :
    after = rest ∧ least ≤ character.toNat ∧ character.toNat = code := by
  obtain ⟨_, scalar, same⟩ := Option.map_eq_some_iff.mp found
  cases same
  obtain ⟨enough, code⟩ := scalar?_eq_some.mp scalar
  exact ⟨rfl, code ▸ enough, code⟩

/-- The forms of a character, told apart by the first byte. -/
inductive Form (character : Char) : Bytes → Prop where
  | one {first : UInt8} (ascii : first.toNat < 0x80) (code : character.toNat = first.toNat) :
      Form character [first]
  | two {first second : UInt8} (least : 0xC0 ≤ first.toNat) (most : first.toNat < 0xE0)
      (continues : isContinuation second) (enough : 0x80 ≤ character.toNat)
      (code : character.toNat = (first.toNat - 0xC0) * 64 + payload second) :
      Form character [first, second]
  | three {first second third : UInt8} (least : 0xE0 ≤ first.toNat) (most : first.toNat < 0xF0)
      (continues : isContinuation second ∧ isContinuation third)
      (enough : 0x800 ≤ character.toNat)
      (code : character.toNat =
        ((first.toNat - 0xE0) * 64 + payload second) * 64 + payload third) :
      Form character [first, second, third]
  | four {first second third fourth : UInt8} (least : 0xF0 ≤ first.toNat)
      (most : first.toNat < 0xF8)
      (continues : isContinuation second ∧ isContinuation third ∧ isContinuation fourth)
      (enough : 0x10000 ≤ character.toNat)
      (code : character.toNat = (((first.toNat - 0xF0) * 64 + payload second) * 64
        + payload third) * 64 + payload fourth) :
      Form character [first, second, third, fourth]

/-- A sequence starts with the characters whose forms it starts with. -/
theorem head?_of_form {character : Char} {written : Bytes} (form : Form character written)
    (rest : Bytes) : head? (written ++ rest) = some (character, rest) := by
  cases form with
  | one ascii code =>
      simp only [List.cons_append, List.nil_append, head?, UInt8.lt_iff_toNat_lt,
        UInt8.reduceToNat]
      rw [if_pos ascii, ← code, Char.ofNat_toNat]
  | two least most continues enough code =>
      simp only [List.cons_append, List.nil_append, head?, UInt8.lt_iff_toNat_lt,
        UInt8.reduceToNat, continues, scalar?_eq_some.mpr ⟨code ▸ enough, code⟩, if_true]
      rw [if_neg (by omega), if_neg (by omega), if_pos most]
      rfl
  | three least most continues enough code =>
      simp only [List.cons_append, List.nil_append, head?, UInt8.lt_iff_toNat_lt,
        UInt8.reduceToNat, continues, Bool.and_true, scalar?_eq_some.mpr ⟨code ▸ enough, code⟩,
        if_true]
      rw [if_neg (by omega), if_neg (by omega), if_neg (by omega), if_pos most]
      rfl
  | four least most continues enough code =>
      simp only [List.cons_append, List.nil_append, head?, UInt8.lt_iff_toNat_lt,
        UInt8.reduceToNat, continues, Bool.and_true, scalar?_eq_some.mpr ⟨code ▸ enough, code⟩,
        if_true]
      rw [if_neg (by omega), if_neg (by omega), if_neg (by omega), if_neg (by omega),
        if_pos most]
      rfl

/-- What a sequence starts with is a form of a character. -/
theorem form_of_head? {character : Char} {bytes rest : Bytes}
    (found : head? bytes = some (character, rest)) :
    ∃ written, bytes = written ++ rest ∧ Form character written := by
  unfold head? at found
  simp only [UInt8.lt_iff_toNat_lt, UInt8.reduceToNat] at found
  split at found
  · cases found
  · next first after =>
      split at found
      · next ascii =>
          cases found
          have low : first.toNat < 0xD800 := by omega
          exact ⟨[first], rfl, .one ascii (toNat_ofNat (.inl low))⟩
      split at found
      · cases found
      split at found
      · next least most =>
          split at found
          · next second after =>
              split at found
              · next continues =>
                  obtain ⟨rfl, enough, code⟩ := scalar?_map_eq_some found
                  exact ⟨[first, second], rfl,
                    .two (Nat.not_lt.mp least) most continues enough code⟩
              · cases found
          · cases found
      split at found
      · next least most =>
          split at found
          · next second third after =>
              split at found
              · next continues =>
                  obtain ⟨rfl, enough, code⟩ := scalar?_map_eq_some found
                  exact ⟨[first, second, third], rfl, .three (Nat.not_lt.mp least) most
                    (by simpa using continues) enough code⟩
              · cases found
          · cases found
      split at found
      · next least most =>
          split at found
          · next second third fourth after =>
              split at found
              · next continues =>
                  obtain ⟨rfl, enough, code⟩ := scalar?_map_eq_some found
                  exact ⟨[first, second, third, fourth], rfl, .four (Nat.not_lt.mp least) most
                    (by simpa [and_assoc] using continues) enough code⟩
              · cases found
          · cases found
      cases found

/-- A character is written in one of its forms. -/
theorem form_encodeChar (character : Char) : Form character (encodeChar character) := by
  have bound := toNat_lt character
  have byte {value : Nat} (small : value < 256) := toNat_toUInt8 small
  have continues {value : Nat} (small : value < 0x40) :
      isContinuation (0x80 + value).toUInt8 = true := by
    rw [isContinuation_iff, byte (by omega)]
    omega
  have load {value : Nat} (small : value < 0x40) : payload (0x80 + value).toUInt8 = value := by
    have same : (0x80 + value).toUInt8.toNat = 0x80 + value := byte (by omega)
    unfold payload
    omega
  unfold encodeChar
  simp only
  split
  · exact .one (by rw [byte] <;> omega) (byte (by omega)).symm
  split
  · apply Form.two
    · rw [byte (by omega)]
      omega
    · rw [byte (by omega)]
      omega
    · exact continues (by omega)
    · omega
    · rw [byte (by omega), load (by omega)]
      omega
  split
  · apply Form.three
    · rw [byte (by omega)]
      omega
    · rw [byte (by omega)]
      omega
    · exact ⟨continues (by omega), continues (by omega)⟩
    · omega
    · rw [byte (by omega), load (by omega), load (by omega)]
      omega
  · apply Form.four
    · rw [byte (by omega)]
      omega
    · rw [byte (by omega)]
      omega
    · exact ⟨continues (by omega), continues (by omega), continues (by omega)⟩
    · omega
    · rw [byte (by omega), load (by omega), load (by omega), load (by omega)]
      omega

/-- A character has no other form than the one it is written in. -/
theorem Form.encodeChar_eq {character : Char} {written : Bytes} (form : Form character written) :
    encodeChar character = written := by
  unfold encodeChar
  simp only
  cases form with
  | one ascii code => rw [if_pos (by omega), toUInt8_eq code]
  | two least most continues enough code =>
      rw [isContinuation_iff] at continues
      unfold payload at code
      rw [if_neg (by omega), if_pos (by omega)]
      simp only [List.cons.injEq, and_true]
      exact ⟨toUInt8_eq (by omega), toUInt8_eq (by omega)⟩
  | three least most continues enough code =>
      simp only [isContinuation_iff] at continues
      unfold payload at code
      rw [if_neg (by omega), if_neg (by omega), if_pos (by omega)]
      simp only [List.cons.injEq, and_true]
      exact ⟨toUInt8_eq (by omega), toUInt8_eq (by omega), toUInt8_eq (by omega)⟩
  | four least most continues enough code =>
      simp only [isContinuation_iff] at continues
      unfold payload at code
      rw [if_neg (by omega), if_neg (by omega), if_neg (by omega)]
      simp only [List.cons.injEq, and_true]
      exact ⟨toUInt8_eq (by omega), toUInt8_eq (by omega), toUInt8_eq (by omega),
        toUInt8_eq (by omega)⟩

/-- A written character is read from the front of the bytes. -/
theorem head?_encodeChar (character : Char) (rest : Bytes) :
    head? (encodeChar character ++ rest) = some (character, rest) :=
  head?_of_form (form_encodeChar character) rest

/-- What is read from the front of the bytes stands there. -/
theorem eq_of_head? {character : Char} {bytes rest : Bytes}
    (found : head? bytes = some (character, rest)) : bytes = encodeChar character ++ rest := by
  obtain ⟨written, same, form⟩ := form_of_head? found
  rw [same, form.encodeChar_eq]

/-- A written character is not empty. -/
theorem encodeChar_length_pos (character : Char) : 0 < (encodeChar character).length := by
  have form := form_encodeChar character
  generalize encodeChar character = written at form
  cases form <;> simp

/-! ### Texts -/

/-- The bytes of some characters. -/
def encodeChars (characters : List Char) : Bytes :=
  characters.flatMap encodeChar

/-- Each character takes at least a byte. -/
theorem length_le_encodeChars (characters : List Char) :
    characters.length ≤ (encodeChars characters).length := by
  induction characters with
  | nil => exact Nat.le_refl 0
  | cons character characters ih =>
      have first := encodeChar_length_pos character
      simp only [encodeChars, List.flatMap_cons, List.length_append, List.length_cons] at ih ⊢
      omega

/-- With enough fuel the longest well-formed beginning is read. -/
theorem decodePrefix_encodeChars (characters read : List Char) {fuel : Nat}
    (enough : characters.length ≤ fuel) :
    decodePrefix fuel read (encodeChars characters) = (read.reverse ++ characters, []) := by
  induction characters generalizing fuel read with
  | nil => cases fuel <;> simp [encodeChars, decodePrefix, head?]
  | cons character characters ih =>
      obtain ⟨fuel, rfl⟩ := Nat.exists_eq_add_one_of_ne_zero (Nat.ne_zero_of_lt enough)
      have later := ih (character :: read) (Nat.le_of_succ_le_succ enough)
      simp only [encodeChars, List.flatMap_cons, decodePrefix, head?_encodeChar] at later ⊢
      simpa using later

/-- The characters that are read stand in front of the bytes that are left. -/
theorem decodePrefix_sound {fuel : Nat} {read characters : List Char} {bytes rest : Bytes}
    (decoded : decodePrefix fuel read bytes = (characters, rest)) :
    ∃ later, characters = read.reverse ++ later ∧ bytes = encodeChars later ++ rest := by
  induction fuel generalizing read bytes with
  | zero =>
      cases decoded
      exact ⟨[], (List.append_nil _).symm, rfl⟩
  | succ fuel ih =>
      rw [decodePrefix] at decoded
      split at decoded
      · next character after found =>
          obtain ⟨later, rfl, rfl⟩ := ih decoded
          exact ⟨character :: later, by simp, by simp [eq_of_head? found, encodeChars]⟩
      · cases decoded
        exact ⟨[], (List.append_nil _).symm, rfl⟩

/-- A sequence is read to its end exactly when it is the bytes of the characters read. -/
theorem decodeLongest_eq_iff {bytes : Bytes} {characters : List Char} :
    decodeLongest bytes = (characters, []) ↔ bytes = encodeChars characters := by
  constructor
  · intro decoded
    obtain ⟨later, rfl, same⟩ := decodePrefix_sound decoded
    simpa using same
  · rintro rfl
    exact decodePrefix_encodeChars characters [] (length_le_encodeChars characters)

end RpcDispatch.Text.Utf8
