import RpcDispatch.Json.Reader

/-
This file defines which bytes are the text of a JSON value, without a reader.  Every part of the
grammar is a relation between what is meant and what is written.
-/

namespace RpcDispatch.Json

def Blanks (written : Bytes) : Prop :=
  ∀ byte ∈ written, isBlank byte = true

theorem blanks_nil : Blanks [] := by
  simp [Blanks]

/-! ### Strings -/

/-- Four hexadecimal digits and their number. -/
inductive HexUnit : (unit : Nat) → (digits : Bytes) → Prop where
  | digits {first second third fourth : UInt8} {value₁ value₂ value₃ value₄ : Nat}
      (hex₁ : hexValue? first = some value₁) (hex₂ : hexValue? second = some value₂)
      (hex₃ : hexValue? third = some value₃) (hex₄ : hexValue? fourth = some value₄) :
      HexUnit (((value₁ * 16 + value₂) * 16 + value₃) * 16 + value₄)
        [first, second, third, fourth]

/-- The letters of the short escapes and the bytes that they stand for. -/
def shortEscapes : List (UInt8 × UInt8) :=
  [(34, 34), (92, 92), (47, 47), (98, 8), (102, 12), (110, 10), (114, 13), (116, 9)]

/-- The character beyond the first plane that two surrogates make. -/
def surrogateChar (high low : Nat) : Char :=
  Char.ofNat ((high - 0xD800) * 1024 + (low - 0xDC00) + 0x10000)

/-- The digits after `\u`, with a second escape for a character beyond the first plane. -/
inductive UnicodeEscape : Char → (digits : Bytes) → Prop where
  | single {unit : Nat} {digits : Bytes} (hex : HexUnit unit digits)
      (notLow : isLowSurrogate unit = false) (notHigh : isHighSurrogate unit = false) :
      UnicodeEscape (Char.ofNat unit) digits
  | surrogates {high low : Nat} {digits digits' : Bytes} (hex : HexUnit high digits)
      (isHigh : isHighSurrogate high = true) (hex' : HexUnit low digits')
      (isLow : isLowSurrogate low = true) :
      UnicodeEscape (surrogateChar high low) (digits ++ 92 :: 117 :: digits')

/-- What stands after a backslash. -/
inductive Escape : (meant written : Bytes) → Prop where
  | short {letter byte : UInt8} (listed : (letter, byte) ∈ shortEscapes) : Escape [byte] [letter]
  | unicode {character : Char} {digits : Bytes} (escape : UnicodeEscape character digits) :
      Escape (Text.Utf8.encodeChar character) (117 :: digits)

/-- A byte of a string stands for itself or belongs to an escape. -/
inductive Piece : (meant written : Bytes) → Prop where
  | plain {byte : UInt8} (printable : ¬byte < 32) (noQuote : byte ≠ 34)
      (noBackslash : byte ≠ 92) : Piece [byte] [byte]
  | escape {meant written : Bytes} (escape : Escape meant written) : Piece meant (92 :: written)

inductive Pieces : (meant written : Bytes) → Prop where
  | nil : Pieces [] []
  | cons {meant written meants writtens : Bytes} (piece : Piece meant written)
      (pieces : Pieces meants writtens) : Pieces (meant ++ meants) (written ++ writtens)

/-- The pieces of a string stand for the UTF-8 form of its text. -/
inductive StringText (text : String) : Bytes → Prop where
  | quoted {body : Bytes} (pieces : Pieces (Text.Utf8.encode text) body) :
      StringText text (34 :: body ++ [34])

/-! ### Numbers -/

/-- The number that a run of digits denotes. -/
def digitsValue (digits : Bytes) : Nat :=
  digits.foldl (fun value byte => value * 10 + digitValue byte) 0

def Digits (written : Bytes) : Prop :=
  written ≠ [] ∧ ∀ byte ∈ written, isDigit byte = true

/-- The digits before the point: a zero stands alone. -/
def WholeDigits (written : Bytes) : Prop :=
  Digits written ∧ (written.head? = some 48 → written = [48])

/-- The part of a number after its `e`: true is a plus sign, false a minus sign. -/
structure Exponent where
  capital : Bool
  sign : Option Bool
  digits : Bytes

/-- The parts of a number as they are written. -/
structure Numeral where
  positive : Bool
  whole : Bytes
  fraction : Option Bytes
  exponent : Option Exponent

def Exponent.signBytes : Option Bool → Bytes
  | none => []
  | some true => [43]
  | some false => [45]

def Exponent.written (exponent : Exponent) : Bytes :=
  (if exponent.capital then 69 else 101) :: Exponent.signBytes exponent.sign ++ exponent.digits

namespace Numeral

def fractionBytes : Option Bytes → Bytes
  | none => []
  | some digits => 46 :: digits

def exponentBytes : Option Exponent → Bytes
  | none => []
  | some exponent => exponent.written

def written (numeral : Numeral) : Bytes :=
  (if numeral.positive then [] else [45]) ++ numeral.whole ++ fractionBytes numeral.fraction ++
    exponentBytes numeral.exponent

structure WellFormed (numeral : Numeral) : Prop where
  whole : WholeDigits numeral.whole
  fraction : ∀ digits ∈ numeral.fraction, Digits digits
  exponent : ∀ exponent ∈ numeral.exponent, Digits exponent.digits

/-- The leading digits, as far as they fit 64 bits, and the power of ten that is left. -/
def significand (numeral : Numeral) : Significand :=
  let whole := (numeral.whole.map digitValue).foldl Significand.pushInteger ⟨0, 0, false⟩
  match numeral.fraction with
  | none => whole
  | some digits =>
    (digits.map digitValue).foldl Significand.pushFraction { whole with full := false }

/-- A float that is finite. -/
def float? (positive : Bool) (significand : Significand) (exponent : Int) : Option Number :=
  (Decimal.ofScientific? significand.value (significand.exponent + exponent)).map fun value =>
    .float (if positive then value else -value).toBits

/-- The integers of 64 bits, with or without sign; minus zero is none. -/
def integer? (positive : Bool) (value : Nat) : Option Number :=
  if positive then
    if value < 0x10000000000000000 then some (.integer value) else none
  else if 0 < value ∧ value ≤ 0x8000000000000000 then some (.integer (-value)) else none

/-- The float with an exponent.  One that does not fit 32 bits makes zero of a number that is zero
or has a minus sign before its exponent; another number is too large. -/
def scaled? (positive : Bool) (significand : Significand) (exponent : Exponent) :
    Option Number :=
  let value := digitsValue exponent.digits
  if value < 0x80000000 then
    float? positive significand (if exponent.sign = some false then -value else value)
  else if significand.value = 0 ∨ exponent.sign = some false then
    some (.float (if positive then (0 : Float) else -0).toBits)
  else none

/-- The number that a numeral denotes, unless it is too large. -/
def number? (numeral : Numeral) : Option Number :=
  match numeral.exponent with
  | some exponent => scaled? numeral.positive numeral.significand exponent
  | none =>
    match numeral.fraction with
    | some _ => float? numeral.positive numeral.significand 0
    | none =>
      (integer? numeral.positive (digitsValue numeral.whole)).or
        (float? numeral.positive numeral.significand 0)

end Numeral

/-! ### Containers -/

/-- What stands before an entry: blanks, with a comma among them unless the entry is the first. -/
inductive EntryLead : (first : Bool) → Bytes → Prop where
  | first {blanks : Bytes} (blank : Blanks blanks) : EntryLead true blanks
  | later {before after : Bytes} (blank : Blanks before) (blank' : Blanks after) :
      EntryLead false (before ++ 44 :: after)

/-- The entries of a container from the first or a later one on, up to its closing bracket. -/
inductive Entries {α : Type} (entry : α → Bytes → Prop) :
    (first : Bool) → List α → Bytes → Prop where
  | none {first : Bool} {blanks : Bytes} (blank : Blanks blanks) : Entries entry first [] blanks
  | entry {first : Bool} {item : α} {items : List α} {lead written others : Bytes}
      (apart : EntryLead first lead) (form : entry item written)
      (entries : Entries entry false items others) :
      Entries entry first (item :: items) (lead ++ written ++ others)

/-- A name, a colon and a value. -/
inductive MemberText {α : Type} (item : α → Bytes → Prop) : String × α → Bytes → Prop where
  | member {name : String} {value : α} {nameBytes before after valueBytes : Bytes}
      (named : StringText name nameBytes) (blank : Blanks before) (blank' : Blanks after)
      (form : item value valueBytes) :
      MemberText item (name, value) (nameBytes ++ before ++ 58 :: after ++ valueBytes)

/-- Members in strictly increasing order of their names. -/
def Sorted {α : Type} (members : List (String × α)) : Prop :=
  members.Pairwise (·.1 < ·.1)

/-- The members of an object are in order, and each is the last pair of its name. -/
structure Collects {α : Type} (pairs members : List (String × α)) : Prop where
  sorted : Sorted members
  last : ∀ name, members.lookup name = pairs.reverse.lookup name

/-! ### Values -/

/-- The text of a value, where `nested` gives the texts of the values inside it, if any may be
there. -/
inductive ValueForm (nested : Option (Value → Bytes → Prop)) : Value → Bytes → Prop where
  | null : ValueForm nested .null [110, 117, 108, 108]
  | true : ValueForm nested (.bool true) [116, 114, 117, 101]
  | false : ValueForm nested (.bool false) [102, 97, 108, 115, 101]
  | number {numeral : Numeral} {number : Number} (wellFormed : numeral.WellFormed)
      (denotes : numeral.number? = some number) :
      ValueForm nested (.number number) numeral.written
  | string {text : String} {written : Bytes} (form : StringText text written) :
      ValueForm nested (.string text) written
  | array {item : Value → Bytes → Prop} {items : List Value} {body : Bytes}
      (within : nested = some item) (entries : Entries item Bool.true items body) :
      ValueForm nested (.array items) (91 :: body ++ [93])
  | object {item : Value → Bytes → Prop} {pairs members : List (String × Value)} {body : Bytes}
      (within : nested = some item) (entries : Entries (MemberText item) Bool.true pairs body)
      (collects : Collects pairs members) :
      ValueForm nested (.object members) (123 :: body ++ [125])

/-- The text of a value whose containers nest at most `depth` deep. -/
def ValueText : (depth : Nat) → Value → Bytes → Prop
  | 0 => ValueForm none
  | depth + 1 => ValueForm (some (ValueText depth))

/-- A text of a value with blanks around it. -/
inductive DocumentText (value : Value) : Bytes → Prop where
  | document {before written after : Bytes} (blank : Blanks before) (blank' : Blanks after)
      (form : ValueText maxDepth value written) : DocumentText value (before ++ written ++ after)

end RpcDispatch.Json
