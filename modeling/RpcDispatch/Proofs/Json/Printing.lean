import RpcDispatch.Json.Printer
import RpcDispatch.Proofs.Json.Members
import RpcDispatch.Proofs.Text.Utf8
import Mathlib.Data.List.Forall2

/-
This file says that what is printed for a value without floats is a text of that value.
-/

namespace RpcDispatch.Json

open Text.Utf8 (encodeChar encodeChars)

theorem encodeChars_append (first second : List Char) :
    encodeChars (first ++ second) = encodeChars first ++ encodeChars second :=
  List.flatMap_append

theorem encodeChars_cons (character : Char) (characters : List Char) :
    encodeChars (character :: characters) = encodeChar character ++ encodeChars characters :=
  List.flatMap_cons

/-! ### Strings -/

/-- Pieces of a string that are written one after another make one string. -/
theorem Pieces.append {meant written meants writtens : Bytes} (pieces : Pieces meant written)
    (later : Pieces meants writtens) : Pieces (meant ++ meants) (written ++ writtens) := by
  induction pieces with
  | nil => exact later
  | cons piece pieces ih =>
      rw [List.append_assoc, List.append_assoc]
      exact .cons piece ih

/-- One piece is a string by itself. -/
theorem Pieces.single {meant written : Bytes} (piece : Piece meant written) :
    Pieces meant written := by
  have pieces := Pieces.cons piece .nil
  rwa [List.append_nil, List.append_nil] at pieces

/-- A byte that needs no escape. -/
def Plain (byte : UInt8) : Prop :=
  32 ≤ byte.toNat ∧ byte.toNat ≠ 34 ∧ byte.toNat ≠ 92

/-- Bytes that need no escape stand for themselves. -/
theorem pieces_plain {bytes : Bytes} (plain : ∀ byte ∈ bytes, Plain byte) : Pieces bytes bytes := by
  induction bytes with
  | nil => exact .nil
  | cons byte bytes ih =>
      obtain ⟨printable, noQuote, noBackslash⟩ := plain byte (.head _)
      have piece : Piece [byte] [byte] := by
        apply Piece.plain
        · rw [UInt8.lt_iff_toNat_lt]
          exact Nat.not_lt.mpr printable
        · rintro rfl
          exact noQuote rfl
        · rintro rfl
          exact noBackslash rfl
      exact (Pieces.single piece).append (ih fun other mem => plain other (.tail _ mem))

/-- A character that needs no escape is written in plain bytes. -/
theorem plain_encodeChar {character : Char} (printable : 32 ≤ character.toNat)
    (noQuote : character ≠ '"') (noBackslash : character ≠ '\\') :
    ∀ byte ∈ encodeChar character, Plain byte := by
  have high {byte : UInt8} (above : 0x80 ≤ byte.toNat) : Plain byte :=
    ⟨by omega, by omega, by omega⟩
  have continuation {byte : UInt8} (continues : Text.Utf8.isContinuation byte = true) :
      Plain byte := high (Text.Utf8.isContinuation_iff.mp continues).1
  have form := Text.Utf8.form_encodeChar character
  generalize encodeChar character = written at form
  cases form with
  | one ascii code =>
      have noQuote' : character.toNat ≠ '"'.toNat := fun same => noQuote (Char.toNat_inj.mp same)
      have noBackslash' : character.toNat ≠ '\\'.toNat :=
        fun same => noBackslash (Char.toNat_inj.mp same)
      rw [code] at printable noQuote' noBackslash'
      simpa using ⟨printable, noQuote', noBackslash'⟩
  | two least most continues =>
      simpa using ⟨high (by omega), continuation continues⟩
  | three least most continues =>
      simpa using ⟨high (by omega), continuation continues.1, continuation continues.2⟩
  | four least most continues =>
      simpa using ⟨high (by omega), continuation continues.1, continuation continues.2.1,
        continuation continues.2.2⟩

/-- The hexadecimal digits that are printed are read as their values. -/
theorem hexValue?_hexDigit : ∀ value < 16, ∃ digit,
    encodeChar (hexDigit value) = [digit] ∧ hexValue? digit = some value := by
  have check : ∀ value < 16, (encodeChar (hexDigit value)).length = 1 ∧
      hexValue? (encodeChar (hexDigit value)).head! = some value := by decide
  intro value small
  obtain ⟨one, read⟩ := check value small
  obtain ⟨digit, same⟩ := List.length_eq_one_iff.mp one
  rw [same] at read
  exact ⟨digit, same, read⟩

/-- The characters with an escape of one letter. -/
def shortChars : List Char := ['"', '\\', '\x08', '\x0c', '\n', '\r', '\t']

/-- The characters with a short escape are written as a backslash and one byte. -/
theorem escapeChar_short : ∀ character ∈ shortChars, ∃ escape ∈ shortEscapes,
    encodeChar character = [escape.2] ∧ encodeChars (escapeChar character) = [92, escape.1] := by
  simp only [shortChars, List.forall_mem_cons]
  exact ⟨⟨(34, 34), by decide, rfl, rfl⟩, ⟨(92, 92), by decide, rfl, rfl⟩,
    ⟨(98, 8), by decide, rfl, rfl⟩, ⟨(102, 12), by decide, rfl, rfl⟩,
    ⟨(110, 10), by decide, rfl, rfl⟩, ⟨(114, 13), by decide, rfl, rfl⟩,
    ⟨(116, 9), by decide, rfl, rfl⟩, nofun⟩

/-- Of the other characters, only the control characters are escaped. -/
theorem escapeChar_long {character : Char} (long : character ∉ shortChars) :
    escapeChar character = if character.toNat < 32 then
      ['\\', 'u', '0', '0', hexDigit (character.toNat / 16), hexDigit (character.toNat % 16)]
    else [character] := by
  simp only [shortChars, List.mem_cons, List.not_mem_nil, or_false, not_or] at long
  simp [escapeChar, long]

/-- The escape of a control character stands for it. -/
theorem escape_control {character : Char} (control : character.toNat < 32) :
    Escape (encodeChar character) (encodeChars
      ['u', '0', '0', hexDigit (character.toNat / 16), hexDigit (character.toNat % 16)]) := by
  obtain ⟨high, writtenHigh, readHigh⟩ := hexValue?_hexDigit (character.toNat / 16) (by omega)
  obtain ⟨low, writtenLow, readLow⟩ := hexValue?_hexDigit (character.toNat % 16) (by omega)
  have zero : hexValue? 48 = some 0 := by decide
  have hex := HexUnit.digits zero zero readHigh readLow
  have unit : ((0 * 16 + 0) * 16 + character.toNat / 16) * 16 + character.toNat % 16 =
      character.toNat := by omega
  rw [unit] at hex
  have escape := Escape.unicode (.single hex (by simp [isLowSurrogate]; omega)
    (by simp [isHighSurrogate]; omega))
  rw [Char.ofNat_toNat] at escape
  simp only [encodeChars_cons, writtenHigh, writtenLow]
  exact escape

/-- A printed character stands for itself. -/
theorem pieces_escapeChar (character : Char) :
    Pieces (encodeChar character) (encodeChars (escapeChar character)) := by
  by_cases listed : character ∈ shortChars
  · obtain ⟨escape, mem, meant, written⟩ := escapeChar_short character listed
    rw [meant, written]
    exact .single (.escape (.short mem))
  rw [escapeChar_long listed]
  split
  · next control => exact .single (.escape (escape_control control))
  · next printable =>
      have noQuote : character ≠ '"' := fun same => listed (by simp [shortChars, same])
      have noBackslash : character ≠ '\\' := fun same => listed (by simp [shortChars, same])
      have plain := pieces_plain
        (plain_encodeChar (Nat.not_lt.mp printable) noQuote noBackslash)
      rwa [encodeChars_cons, show encodeChars [] = [] from rfl, List.append_nil]

/-- A printed string is a text of that string. -/
theorem stringText_stringChars (text : String) :
    StringText text (encodeChars (stringChars text)) := by
  have pieces : Pieces (Text.Utf8.encode text)
      (encodeChars (text.toList.flatMap escapeChar)) := by
    rw [Text.Utf8.encode]
    induction text.toList with
    | nil => exact .nil
    | cons character characters ih =>
        rw [List.flatMap_cons, List.flatMap_cons, encodeChars_append]
        exact (pieces_escapeChar character).append ih
  have written : encodeChars (stringChars text) =
      34 :: encodeChars (text.toList.flatMap escapeChar) ++ [34] := by
    rw [stringChars, List.cons_append, encodeChars_cons, encodeChars_append]
    rfl
  rw [written]
  exact .quoted pieces

/-! ### Integers -/

/-- The byte of a decimal digit is a digit of the same value. -/
theorem encodeChar_digit {character : Char} (digit : character.isDigit = true) :
    ∃ byte, encodeChar character = [byte] ∧ isDigit byte = true ∧
      digitValue byte = character.toNat - 48 := by
  rw [Char.isDigit_iff_toNat] at digit
  have bounds : 48 ≤ character.toNat ∧ character.toNat ≤ 57 := digit
  have small : character.toNat < 0x80 := by omega
  have byte : character.toNat.toUInt8.toNat = character.toNat :=
    Text.Utf8.toNat_toUInt8 (by omega)
  refine ⟨character.toNat.toUInt8, ?_, ?_, ?_⟩
  · rw [encodeChar, if_pos small]
  · simp [isDigit, UInt8.le_iff_toNat_le, byte, bounds]
  · rw [digitValue, byte]

/-- Digits are written as digits, and their bytes have the same value. -/
theorem encodeChars_digits {characters : List Char}
    (digits : ∀ character ∈ characters, character.isDigit = true) (start : Nat) :
    (∀ byte ∈ encodeChars characters, isDigit byte = true) ∧
      (encodeChars characters).foldl (fun value byte => value * 10 + digitValue byte) start =
        Nat.ofDigitChars 10 characters start := by
  induction characters generalizing start with
  | nil => exact ⟨nofun, rfl⟩
  | cons character characters ih =>
      obtain ⟨byte, written, digit, value⟩ := encodeChar_digit (digits character (.head _))
      have later := ih (fun other mem => digits other (.tail _ mem))
      rw [encodeChars_cons, written, List.singleton_append]
      constructor
      · intro other mem
        rcases List.mem_cons.mp mem with rfl | mem
        · exact digit
        · exact (later 0).1 other mem
      · rw [List.foldl_cons, (later _).2, Nat.ofDigitChars_cons, value, Nat.mul_comm]
        rfl

/-- A number that is not zero starts with another digit. -/
theorem head?_toDigits {number : Nat} (positive : 0 < number) :
    (Nat.toDigits 10 number).head? ≠ some '0' := by
  induction number using Nat.strongRecOn with
  | ind number ih =>
      rw [Nat.toDigits_eq_if (by decide)]
      split
      · next small =>
          intro zero
          have same := congrArg Char.toNat (Option.some.inj zero)
          rw [Nat.toNat_digitChar_of_lt_ten small] at same
          have zero' : '0'.toNat = 48 := rfl
          omega
      · next large =>
          have leading := ih (number / 10) (by omega) (by omega)
          obtain ⟨first, later, same⟩ := List.exists_cons_of_ne_nil
            (Nat.toDigits_ne_nil (n := number / 10) (b := 10))
          rwa [same] at leading ⊢

/-- The numeral that is printed for an integer. -/
def integerNumeral (value : Int) : Numeral where
  positive := !decide (value < 0)
  whole := encodeChars (Nat.toDigits 10 value.natAbs)
  fraction := none
  exponent := none

/-- A printed natural number has no zeros in front. -/
theorem wholeDigits_toDigits (number : Nat) :
    WholeDigits (encodeChars (Nat.toDigits 10 number)) := by
  have digits : ∀ character ∈ Nat.toDigits 10 number, character.isDigit = true :=
    fun character mem => Nat.isDigit_of_mem_toDigits (by decide) (by decide) mem
  refine ⟨⟨?_, (encodeChars_digits digits 0).1⟩, ?_⟩
  · intro none
    have bound := Text.Utf8.length_le_encodeChars (Nat.toDigits 10 number)
    rw [none] at bound
    exact Nat.toDigits_ne_nil (List.length_eq_zero_iff.mp (Nat.le_zero.mp bound))
  · intro leading
    by_cases zero : number = 0
    · subst zero
      rfl
    · have first := head?_toDigits (Nat.pos_of_ne_zero zero)
      obtain ⟨character, characters, same⟩ :=
        List.exists_cons_of_ne_nil (Nat.toDigits_ne_nil (n := number) (b := 10))
      rw [same] at digits first leading
      obtain ⟨byte, written, -, value⟩ := encodeChar_digit (digits character (.head _))
      rw [encodeChars_cons, written] at leading
      have isZero : byte = 48 := Option.some.inj leading
      have least : 48 ≤ character.toNat :=
        (Char.isDigit_iff_toNat.mp (digits character (.head _))).1
      have zero' : digitValue 48 = 0 := rfl
      rw [isZero, zero'] at value
      have character' : character = '0' := by
        apply Char.toNat_inj.mp
        show character.toNat = 48
        omega
      exact absurd (congrArg some character') first

/-- The numeral of an exact integer denotes it. -/
theorem number?_integerNumeral {value : Int} (exact : Number.isExact value = true) :
    (integerNumeral value).number? = some (.integer value) := by
  have digits : ∀ character ∈ Nat.toDigits 10 value.natAbs, character.isDigit = true :=
    fun character mem => Nat.isDigit_of_mem_toDigits (by decide) (by decide) mem
  have total : digitsValue (integerNumeral value).whole = value.natAbs :=
    (encodeChars_digits digits 0).2.trans Nat.ofDigitChars_ten_toDigits
  rw [Number.isExact, Bool.and_eq_true, decide_eq_true_eq, decide_eq_true_eq] at exact
  have found : Numeral.integer? (integerNumeral value).positive
      (digitsValue (integerNumeral value).whole) = some (.integer value) := by
    rw [total, Numeral.integer?, integerNumeral]
    by_cases negative : value < 0
    · rw [if_neg (by simp [negative]), if_pos (by omega)]
      congr 2
      omega
    · rw [if_pos (by simp [negative]), if_pos (by omega)]
      congr 2
      omega
  simp only [Numeral.number?, integerNumeral] at found ⊢
  rw [found, Option.some_or]

/-- A printed integer is the written numeral of it. -/
theorem encodeChars_integerChars (value : Int) :
    encodeChars (integerChars value) = (integerNumeral value).written := by
  have minus : encodeChar '-' = [45] := rfl
  unfold integerChars integerNumeral Numeral.written withSign
  by_cases negative : value < 0 <;>
    simp [negative, encodeChars_cons, minus, Numeral.fractionBytes, Numeral.exponentBytes]

/-! ### Containers -/

section

variable {α : Type} {text : α → Bytes → Prop} {items : List α} {written : List (List Char)}

/-- Entries without blanks, apart by commas. -/
theorem entries_later
    (forms : List.Forall₂ (fun item chars => text item (encodeChars chars)) items written) :
    Entries text false items (encodeChars (written.flatMap fun chars => ',' :: chars)) := by
  induction forms with
  | nil => exact .none blanks_nil
  | cons form forms ih =>
      rw [List.flatMap_cons, encodeChars_append, encodeChars_cons]
      exact .entry (.later blanks_nil blanks_nil) form ih

/-- The first item stands bare, and a comma stands before every other one. -/
theorem intercalate_cons (first : List Char) (written : List (List Char)) :
    [','].intercalate (first :: written) =
      first ++ written.flatMap fun chars => ',' :: chars := by
  induction written generalizing first with
  | nil => simp
  | cons chars written ih =>
      rw [List.intercalate_cons_cons, ih, List.flatMap_cons]
      simp

/-- Texts of items with commas between them are the entries of a container. -/
theorem entries_intercalate
    (forms : List.Forall₂ (fun item chars => text item (encodeChars chars)) items written) :
    Entries text true items (encodeChars ([','].intercalate written)) := by
  cases forms with
  | nil => exact .none blanks_nil
  | cons form forms =>
      rw [intercalate_cons, encodeChars_append]
      exact .entry (.first blanks_nil) form (entries_later forms)

end

/-- A printed member is a text of that member. -/
theorem memberText_memberChars {item : Value → Bytes → Prop} {name : String} {value : Value}
    {chars : List Char} (form : item value (encodeChars chars)) :
    MemberText item (name, value) (encodeChars (memberChars name chars)) := by
  have colon : encodeChar ':' = [58] := rfl
  have member := MemberText.member (stringText_stringChars name) blanks_nil blanks_nil form
  rw [memberChars, encodeChars_append, encodeChars_cons, colon]
  simpa using member

/-- The items of a list are printed one by one. -/
theorem itemsChars_eq (items : List Value) : itemsChars items = items.map Value.chars := by
  induction items with
  | nil => rfl
  | cons item items ih => rw [itemsChars, List.map_cons, ih]

/-- The members of an object are printed one by one. -/
theorem membersChars_eq (members : List (String × Value)) :
    membersChars members = members.map fun member => memberChars member.1 member.2.chars := by
  induction members with
  | nil => rfl
  | cons member members ih => rw [membersChars, List.map_cons, ih]

/-- What is printed for an array is a text of it, if what is printed for the items is. -/
theorem valueText_arrayChars {depth : Nat} {items : List Value}
    (forms : ∀ item ∈ items, ValueText depth item (encodeChars item.chars)) :
    ValueText (depth + 1) (.array items) (encodeChars (arrayChars (itemsChars items))) := by
  have entries : Entries (ValueText depth) true items
      (encodeChars ([','].intercalate (itemsChars items))) := by
    apply entries_intercalate
    rw [itemsChars_eq, List.forall₂_map_right_iff, List.forall₂_same]
    exact forms
  rw [arrayChars, List.cons_append, encodeChars_cons, encodeChars_append]
  exact .array rfl entries

/-- Members between braces are a text of the object that they make, in whatever order they are. -/
theorem valueText_braces {depth : Nat} {pairs : List (String × Value)}
    {written : List (List Char)}
    (forms : List.Forall₂ (fun pair chars => MemberText (ValueText depth) pair (encodeChars chars))
      pairs written) :
    ValueText (depth + 1) (.object (collectMembers pairs))
      (encodeChars (objectChars written)) := by
  have entries := entries_intercalate forms
  rw [objectChars, List.cons_append, encodeChars_cons, encodeChars_append]
  exact .object rfl entries (collects_collectMembers pairs)

/-- What is printed for members is a text of the object that they make. -/
theorem valueText_objectChars {depth : Nat} {pairs : List (String × Value)}
    (forms : ∀ pair ∈ pairs, ValueText depth pair.2 (encodeChars pair.2.chars)) :
    ValueText (depth + 1) (.object (collectMembers pairs))
      (encodeChars (objectChars (membersChars pairs))) := by
  apply valueText_braces
  rw [membersChars_eq, List.forall₂_map_right_iff, List.forall₂_same]
  exact fun pair mem => memberText_memberChars (forms pair mem)

/-! ### Values -/

/-- A value that a text keeps: no floats, integers of 64 bits, members in order, and containers
nested at most `depth` deep. -/
inductive Portable : (depth : Nat) → Value → Prop where
  | null {depth : Nat} : Portable depth .null
  | bool {depth : Nat} (value : Bool) : Portable depth (.bool value)
  | integer {depth : Nat} {value : Int} (exact : Number.isExact value = true) :
      Portable depth (.number (.integer value))
  | string {depth : Nat} (text : String) : Portable depth (.string text)
  | array {depth : Nat} {items : List Value} (inside : ∀ item ∈ items, Portable depth item) :
      Portable (depth + 1) (.array items)
  | object {depth : Nat} {members : List (String × Value)} (sorted : Sorted members)
      (inside : ∀ member ∈ members, Portable depth member.2) :
      Portable (depth + 1) (.object members)

/-- A form of a value is a text of it at every depth. -/
theorem valueText_of_form {depth : Nat} {value : Value} {written : Bytes}
    (form : ∀ nested, ValueForm nested value written) : ValueText depth value written := by
  cases depth <;> exact form _

/-- What is printed for a value that a text keeps is a text of that value. -/
theorem Portable.valueText {depth : Nat} {value : Value} (portable : Portable depth value) :
    ValueText depth value (encodeChars value.chars) := by
  induction portable with
  | null => exact valueText_of_form fun nested => .null
  | bool value =>
      cases value with
      | true => exact valueText_of_form fun nested => .true
      | false => exact valueText_of_form fun nested => .false
  | @integer depth value exact =>
      have wellFormed : (integerNumeral value).WellFormed :=
        ⟨wholeDigits_toDigits _, nofun, nofun⟩
      rw [Value.chars, Number.chars, encodeChars_integerChars]
      exact valueText_of_form fun nested => .number wellFormed (number?_integerNumeral exact)
  | string text =>
      rw [Value.chars]
      exact valueText_of_form fun nested => .string (stringText_stringChars text)
  | array inside ih =>
      rw [Value.chars]
      exact valueText_arrayChars ih
  | object sorted inside ih =>
      rw [Value.chars]
      have form := valueText_objectChars ih
      rwa [← sorted.collects.eq_collectMembers] at form

end RpcDispatch.Json
