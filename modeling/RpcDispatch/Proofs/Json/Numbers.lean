import RpcDispatch.Proofs.Json.Grammar
import Mathlib.Data.List.TakeWhile

/-
This file says that the reader of numbers takes exactly the numerals of the grammar and gives the
numbers that they denote.
-/

namespace RpcDispatch.Json

/-! ### Runs of digits -/

/-- No run of digits goes on here. -/
def NoDigit (rest : Bytes) : Prop :=
  ∀ byte ∈ rest.head?, isDigit byte = false

/-- What may follow a number: neither a digit nor a point nor an exponent goes on here. -/
def Ends (rest : Bytes) : Prop :=
  ∀ byte ∈ rest.head?, isDigit byte = false ∧ byte ≠ 46 ∧ byte ≠ 101 ∧ byte ≠ 69

theorem Ends.noDigit {rest : Bytes} (ends : Ends rest) : NoDigit rest :=
  fun byte mem => (ends byte mem).1

/-- Exactly the digits are taken where no digit follows. -/
theorem takeWhile_digits {digits rest : Bytes} (all : ∀ byte ∈ digits, isDigit byte = true)
    (stops : NoDigit rest) : (digits ++ rest).takeWhile isDigit = digits := by
  have none : rest.takeWhile isDigit = [] := by
    cases rest with
    | nil => rfl
    | cons byte rest => simp [stops byte rfl]
  rw [List.takeWhile_append_of_pos all, none, List.append_nil]

/-- Exactly the digits are dropped where no digit follows. -/
theorem dropWhile_digits {digits rest : Bytes} (all : ∀ byte ∈ digits, isDigit byte = true)
    (stops : NoDigit rest) : (digits ++ rest).dropWhile isDigit = rest := by
  have whole : rest.dropWhile isDigit = rest := by
    cases rest with
    | nil => rfl
    | cons byte rest => simp [stops byte rfl]
  rw [List.dropWhile_append_of_pos all, whole]

/-- Every input is a run of digits and a rest that the run does not go on in. -/
theorem exists_digits (input : Bytes) :
    ∃ digits rest, input = digits ++ rest ∧ (∀ byte ∈ digits, isDigit byte = true) ∧
      NoDigit rest := by
  refine ⟨input.takeWhile isDigit, input.dropWhile isDigit,
    (List.takeWhile_append_dropWhile).symm, fun byte mem => List.mem_takeWhile_imp mem, ?_⟩
  intro byte mem
  have first := List.head?_dropWhile_not isDigit input
  rw [Option.mem_def.mp mem] at first
  simpa using first

/-- The reader takes a run of digits up to where it ends. -/
theorem takeDigits_digits {digits rest : Bytes} (all : ∀ byte ∈ digits, isDigit byte = true)
    (stops : NoDigit rest) : takeDigits (digits ++ rest) = (digits.map digitValue, rest) := by
  rw [takeDigits, takeWhile_digits all stops, dropWhile_digits all stops]

/-! ### The parts of a number -/

/-- The leading digits of a whole part. -/
def wholeSignificand (whole : Bytes) : Significand :=
  (whole.map digitValue).foldl Significand.pushInteger ⟨0, 0, false⟩

/-- The part before the point is read as all its digits, with no zeros in front. -/
theorem readIntegerPart_eq_ok {input rest : Bytes} {significand : Significand} :
    readIntegerPart input = .ok (significand, rest) ↔
      ∃ whole, WholeDigits whole ∧ NoDigit rest ∧ input = whole ++ rest ∧
        significand = wholeSignificand whole := by
  constructor
  · intro read
    unfold readIntegerPart at read
    split at read
    · cases read
    · next first after =>
        split at read
        · next zero =>
            have alone : WholeDigits [first] := by
              subst zero
              exact ⟨⟨List.cons_ne_nil _ _, by simp [isDigit]⟩, fun _ => rfl⟩
            split at read
            · next second after =>
                split at read
                · cases read
                · next noDigit =>
                    cases read
                    refine ⟨[first], alone, ?_, rfl, by subst zero; rfl⟩
                    intro byte mem
                    cases mem
                    simpa using noDigit
            · cases read
              exact ⟨[first], alone, by simp [NoDigit], rfl, by subst zero; rfl⟩
        split at read
        · next notZero digit =>
            obtain ⟨digits, left, rfl, all, stops⟩ := exists_digits after
            have all' : ∀ byte ∈ first :: digits, isDigit byte = true := by
              simpa using ⟨digit, all⟩
            rw [← List.cons_append, takeDigits_digits all' stops] at read
            cases read
            refine ⟨first :: digits, ⟨⟨by simp, all'⟩, ?_⟩, stops, rfl, rfl⟩
            intro zero
            exact absurd (Option.some.inj zero) notZero
        · cases read
  · rintro ⟨whole, ⟨⟨some, all⟩, alone⟩, stops, rfl, rfl⟩
    obtain ⟨first, digits, rfl⟩ := List.exists_cons_of_ne_nil some
    rw [List.cons_append]
    unfold readIntegerPart
    by_cases zero : first = 48
    · subst zero
      have single : digits = [] := by simpa using alone rfl
      subst single
      cases rest with
      | nil => rfl
      | cons second rest =>
          have noDigit := stops second rfl
          simp only [List.nil_append, if_true, noDigit, Bool.false_eq_true, if_false]
          rfl
    · have digit := all first (by simp)
      simp only
      rw [if_neg zero, if_pos digit, ← List.cons_append, takeDigits_digits all stops]
      rfl

/-- The part behind the point is read as all its digits. -/
theorem readFraction_eq_ok {significand after : Significand} {input rest : Bytes} :
    readFraction significand input = .ok (after, rest) ↔
      ∃ digits, Digits digits ∧ NoDigit rest ∧ input = digits ++ rest ∧
        after = (digits.map digitValue).foldl Significand.pushFraction
          { significand with full := false } := by
  constructor
  · intro read
    obtain ⟨digits, left, rfl, all, stops⟩ := exists_digits input
    unfold readFraction at read
    rw [takeDigits_digits all stops] at read
    cases digits with
    | nil => cases left <;> cases read
    | cons first digits =>
        cases read
        exact ⟨first :: digits, ⟨by simp, all⟩, stops, rfl, rfl⟩
  · rintro ⟨digits, ⟨some, all⟩, stops, rfl, rfl⟩
    obtain ⟨first, digits, rfl⟩ := List.exists_cons_of_ne_nil some
    unfold readFraction
    rw [takeDigits_digits all stops]
    rfl

/-! ### Exponents -/

/-- The sign of an exponent is read where a digit follows. -/
theorem readExponentSign_signBytes {sign : Option Bool} {rest : Bytes}
    (digit : ∀ byte ∈ rest.head?, isDigit byte = true) :
    readExponentSign (Exponent.signBytes sign ++ rest) = (decide (sign ≠ some false), rest) := by
  match sign with
  | some true | some false => rfl
  | none =>
      rw [Exponent.signBytes, List.nil_append]
      unfold readExponentSign
      split
      · exact absurd (digit 43 rfl) (by decide)
      · exact absurd (digit 45 rfl) (by decide)
      · rfl

/-- Digits only add to what stands before them. -/
theorem le_foldl_digits (digits : Bytes) (start : Nat) :
    start ≤ digits.foldl (fun value byte => value * 10 + digitValue byte) start := by
  induction digits generalizing start with
  | nil => exact Nat.le_refl start
  | cons byte digits ih =>
      have later := ih (start * 10 + digitValue byte)
      rw [List.foldl_cons]
      omega

/-- An exponent is read to its end or refused where it becomes too large. -/
theorem exponentValue_digits {digits rest : Bytes} (all : ∀ byte ∈ digits, isDigit byte = true)
    (stops : NoDigit rest) {start : Nat} (small : start < 0x80000000) :
    let total := digits.foldl (fun value byte => value * 10 + digitValue byte) start
    (total < 0x80000000 → exponentValue start (digits ++ rest) = .ok (total, rest)) ∧
      (¬total < 0x80000000 → ∃ failure, exponentValue start (digits ++ rest) = .error failure ∧
        failure.rest.dropWhile isDigit = rest) := by
  induction digits generalizing start with
  | nil =>
      refine ⟨fun _ => ?_, fun large => absurd small large⟩
      cases rest with
      | nil => rfl
      | cons byte rest => simp [exponentValue, stops byte rfl]
  | cons byte digits ih =>
      have digit := all byte (by simp)
      have all' : ∀ byte ∈ digits, isDigit byte = true := fun other mem => all other (by simp [mem])
      simp only [List.cons_append, List.foldl_cons, exponentValue, digit, if_true]
      by_cases fits : start * 10 + digitValue byte < 0x80000000
      · rw [if_pos fits]
        exact ih all' fits
      · have larger := le_foldl_digits digits (start * 10 + digitValue byte)
        rw [if_neg fits]
        refine ⟨fun within => by omega, fun _ => ⟨_, rfl, dropWhile_digits all' stops⟩⟩

/-- A float is read when its numeral denotes one, and nothing more is taken. -/
theorem floatNumber_eq_ok {positive : Bool} {significand : Significand} {exponent : Int}
    {input rest : Bytes} {number : Number} :
    floatNumber positive significand exponent input = .ok (number, rest) ↔
      Numeral.float? positive significand exponent = some number ∧ rest = input := by
  unfold floatNumber Numeral.float?
  cases Decimal.ofScientific? significand.value (significand.exponent + exponent) with
  | none => simp
  | some value =>
      simp only [Except.ok.injEq, Prod.mk.injEq, Option.map_some, Option.some.injEq]
      exact and_congr_right fun _ => eq_comm

/-- The reader of an exponent takes a sign, if there is one, and a run of digits. -/
theorem readExponent_digits {exponent : Exponent} (digits : Digits exponent.digits)
    {positive : Bool} {significand : Significand} {rest left : Bytes} {number : Number}
    (stops : NoDigit rest) :
    readExponent positive significand
        (Exponent.signBytes exponent.sign ++ (exponent.digits ++ rest)) = .ok (number, left) ↔
      Numeral.scaled? positive significand exponent = some number ∧ left = rest := by
  obtain ⟨capital, sign, digits⟩ := exponent
  obtain ⟨some, all⟩ := digits
  obtain ⟨first, digits, rfl⟩ := List.exists_cons_of_ne_nil some
  have digit := all first (by simp)
  have all' : ∀ byte ∈ digits, isDigit byte = true := fun byte mem => all byte (by simp [mem])
  have small : digitValue first < 0x80000000 := by
    have bound := first.toNat_lt
    unfold digitValue
    omega
  have value : digitsValue (first :: digits) =
      digits.foldl (fun value byte => value * 10 + digitValue byte) (digitValue first) := by
    simp [digitsValue]
  obtain ⟨fits, large⟩ := exponentValue_digits all' stops small
  unfold readExponent Numeral.scaled?
  rw [readExponentSign_signBytes (by simpa using digit)]
  simp only [List.cons_append, digit, if_true, value]
  by_cases within : digits.foldl (fun value byte => value * 10 + digitValue byte)
      (digitValue first) < 0x80000000
  · rw [if_pos within, fits within]
    simp only
    rw [floatNumber_eq_ok]
    by_cases negative : sign = .some false <;> simp [negative]
  · obtain ⟨failure, refused, after⟩ := large within
    rw [if_neg within, refused]
    by_cases vanishes : significand.value = 0 ∨ sign = .some false
    · have vanishes' : (decide (significand.value = 0) || !decide (sign ≠ .some false)) = true := by
        simpa using vanishes
      simp only [vanishes, vanishes', after, if_true, Except.ok.injEq, Prod.mk.injEq,
        Option.some.injEq]
      exact and_congr_right fun _ => eq_comm
    · simp [vanishes]

/-- An exponent that is read stands in the input and scales the numeral. -/
theorem readExponent_sound {positive : Bool} {significand : Significand} {input rest : Bytes}
    {number : Number} (read : readExponent positive significand input = .ok (number, rest))
    (capital : Bool) :
    ∃ exponent : Exponent, exponent.capital = capital ∧ Digits exponent.digits ∧ NoDigit rest ∧
      input = Exponent.signBytes exponent.sign ++ (exponent.digits ++ rest) ∧
      Numeral.scaled? positive significand exponent = some number := by
  obtain ⟨sign, unsigned, rfl, found⟩ : ∃ sign unsigned,
      input = Exponent.signBytes sign ++ unsigned ∧
        readExponentSign input = (decide (sign ≠ some false), unsigned) := by
    unfold readExponentSign
    split
    · next unsigned => exact ⟨some true, unsigned, rfl, rfl⟩
    · next unsigned => exact ⟨some false, unsigned, rfl, rfl⟩
    · exact ⟨none, input, rfl, rfl⟩
  obtain ⟨digits, left, rfl, all, stops⟩ := exists_digits unsigned
  have digits' : Digits digits := by
    refine ⟨?_, all⟩
    rintro rfl
    unfold readExponent at read
    rw [found] at read
    cases left with
    | nil => cases read
    | cons byte left => simp [stops byte rfl] at read
  let exponent : Exponent := ⟨capital, sign, digits⟩
  have found : Digits exponent.digits := digits'
  obtain ⟨denotes, rfl⟩ := (readExponent_digits found stops).mp read
  exact ⟨exponent, rfl, digits', stops, rfl, denotes⟩

/-! ### Integers -/

/-- A significand that is full stays full. -/
theorem foldl_pushInteger_full (digits : Bytes) {significand : Significand}
    (full : significand.full = true) :
    ((digits.map digitValue).foldl Significand.pushInteger significand).full = true := by
  induction digits generalizing significand with
  | nil => exact full
  | cons byte digits ih =>
      apply ih
      simp [Significand.pushInteger, full]

/-- Digits that fit 64 bits are kept, others are not. -/
theorem foldl_pushInteger (digits : Bytes) (start : Nat) :
    let total := digits.foldl (fun value byte => value * 10 + digitValue byte) start
    let significand := (digits.map digitValue).foldl Significand.pushInteger ⟨start, 0, false⟩
    (total < 0x10000000000000000 → significand = ⟨total, 0, false⟩) ∧
      (start < 0x10000000000000000 → ¬total < 0x10000000000000000 → significand.full = true) := by
  induction digits generalizing start with
  | nil => exact ⟨fun _ => rfl, fun small large => absurd small large⟩
  | cons byte digits ih =>
      have larger := le_foldl_digits digits (start * 10 + digitValue byte)
      have later := ih (start * 10 + digitValue byte)
      simp only [List.foldl_cons, List.map_cons] at later ⊢
      by_cases fits : start * 10 + digitValue byte < 0x10000000000000000
      · have pushed : Significand.pushInteger ⟨start, 0, false⟩ (digitValue byte) =
            ⟨start * 10 + digitValue byte, 0, false⟩ := by
          simp [Significand.pushInteger, Significand.admits, fits]
        rw [pushed]
        exact ⟨later.1, fun _ => later.2 fits⟩
      · refine ⟨fun small => absurd (Nat.lt_of_le_of_lt larger small) fits, fun _ _ => ?_⟩
        apply foldl_pushInteger_full
        simp [Significand.pushInteger, Significand.admits, fits]

/-- A numeral without point and exponent is an integer if that is in range, and a float otherwise.
-/
theorem integerNumber_eq_ok {positive : Bool} {whole input rest : Bytes} {number : Number} :
    integerNumber positive (wholeSignificand whole) input = .ok (number, rest) ↔
      (Numeral.integer? positive (digitsValue whole)).or
          (Numeral.float? positive (wholeSignificand whole) 0) = some number ∧ rest = input := by
  obtain ⟨fits, large⟩ := foldl_pushInteger whole 0
  unfold integerNumber
  by_cases within : digitsValue whole < 0x10000000000000000
  · have same : wholeSignificand whole = ⟨digitsValue whole, 0, false⟩ := fits within
    rw [same]
    cases positive with
    | true => simp [Numeral.integer?, within, eq_comm]
    | false =>
        by_cases negative : 0 < digitsValue whole ∧ digitsValue whole ≤ 0x8000000000000000
        · simp [Numeral.integer?, negative, eq_comm]
        · have negative' : (decide (0 < digitsValue whole) &&
              decide (digitsValue whole ≤ 0x8000000000000000)) = false := by
            simpa using negative
          simp only [Numeral.integer?, negative, negative', Bool.false_eq_true, if_false,
            Option.none_or]
          exact floatNumber_eq_ok
  · have full : (wholeSignificand whole).full = true := large (by decide) within
    have none : Numeral.integer? positive (digitsValue whole) = none := by
      have beyond : ¬digitsValue whole ≤ 0x8000000000000000 := by omega
      cases positive <;> simp [Numeral.integer?, within, beyond]
    rw [full, none, if_pos rfl, Option.none_or]
    exact floatNumber_eq_ok

/-! ### Numbers -/

/-- What the reader takes after the whole part is a fraction and an exponent, if there are any. -/
theorem readNumberTail_sound {positive : Bool} {whole input rest : Bytes} {number : Number}
    (digits : WholeDigits whole)
    (read : readNumberTail positive (wholeSignificand whole) input = .ok (number, rest)) :
    ∃ fraction exponent, (⟨positive, whole, fraction, exponent⟩ : Numeral).WellFormed ∧
      (⟨positive, whole, fraction, exponent⟩ : Numeral).number? = some number ∧
      input = Numeral.fractionBytes fraction ++ (Numeral.exponentBytes exponent ++ rest) := by
  unfold readNumberTail at read
  split at read
  · split at read
    · cases read
    · next found =>
        obtain ⟨run, some, -, rfl, rfl⟩ := readFraction_eq_ok.mp found
        obtain ⟨exponent, small, some', -, rfl, denotes⟩ := readExponent_sound read false
        exact ⟨.some run, .some exponent, ⟨digits, by simpa using some, by simpa using some'⟩,
          denotes, by simp [Numeral.fractionBytes, Numeral.exponentBytes, Exponent.written, small]⟩
    · next found =>
        obtain ⟨run, some, -, rfl, rfl⟩ := readFraction_eq_ok.mp found
        obtain ⟨exponent, capital, some', -, rfl, denotes⟩ := readExponent_sound read true
        exact ⟨.some run, .some exponent, ⟨digits, by simpa using some, by simpa using some'⟩,
          denotes,
          by simp [Numeral.fractionBytes, Numeral.exponentBytes, Exponent.written, capital]⟩
    · next found =>
        obtain ⟨run, some, -, rfl, rfl⟩ := readFraction_eq_ok.mp found
        obtain ⟨denotes, rfl⟩ := floatNumber_eq_ok.mp read
        exact ⟨.some run, none, ⟨digits, by simpa using some, by simp⟩, denotes, rfl⟩
  · obtain ⟨exponent, small, some, -, rfl, denotes⟩ := readExponent_sound read false
    exact ⟨none, .some exponent, ⟨digits, by simp, by simpa using some⟩, denotes,
      by simp [Numeral.fractionBytes, Numeral.exponentBytes, Exponent.written, small]⟩
  · obtain ⟨exponent, capital, some, -, rfl, denotes⟩ := readExponent_sound read true
    exact ⟨none, .some exponent, ⟨digits, by simp, by simpa using some⟩, denotes,
      by simp [Numeral.fractionBytes, Numeral.exponentBytes, Exponent.written, capital]⟩
  · obtain ⟨denotes, rfl⟩ := integerNumber_eq_ok.mp read
    exact ⟨none, none, ⟨digits, by simp, by simp⟩, denotes, rfl⟩

/-- No digit stands where an exponent begins. -/
theorem noDigit_exponentBytes {exponent : Option Exponent} {rest : Bytes} (ends : Ends rest) :
    NoDigit (Numeral.exponentBytes exponent ++ rest) := by
  match exponent with
  | none => exact ends.noDigit
  | some ⟨true, sign, digits⟩ | some ⟨false, sign, digits⟩ =>
      intro byte mem
      cases mem
      rfl

/-- An exponent is read with the significand before it. -/
theorem readExponent_complete {exponent : Exponent} (digits : Digits exponent.digits)
    {positive : Bool} {significand : Significand} {rest : Bytes} {number : Number}
    (denotes : Numeral.scaled? positive significand exponent = some number) (ends : Ends rest) :
    readExponent positive significand
      (Exponent.signBytes exponent.sign ++ (exponent.digits ++ rest)) = .ok (number, rest) :=
  (readExponent_digits digits ends.noDigit).mpr ⟨denotes, rfl⟩

/-- What stands behind the first digits of a numeral is read in full. -/
theorem readNumberTail_complete {numeral : Numeral} {number : Number} {rest : Bytes}
    (wellFormed : numeral.WellFormed) (denotes : numeral.number? = some number)
    (ends : Ends rest) :
    readNumberTail numeral.positive (wholeSignificand numeral.whole)
      (Numeral.fractionBytes numeral.fraction ++
        (Numeral.exponentBytes numeral.exponent ++ rest)) = .ok (number, rest) := by
  obtain ⟨positive, whole, fraction, exponent⟩ := numeral
  obtain ⟨-, fractionDigits, exponentDigits⟩ := wellFormed
  cases fraction with
  | none =>
      match exponent with
      | none =>
          have same : readNumberTail positive (wholeSignificand whole) rest =
              integerNumber positive (wholeSignificand whole) rest := by
            unfold readNumberTail
            split
            · exact absurd rfl (ends 46 rfl).2.1
            · exact absurd rfl (ends 101 rfl).2.2.1
            · exact absurd rfl (ends 69 rfl).2.2.2
            · rfl
          exact same.trans (integerNumber_eq_ok.mpr ⟨denotes, rfl⟩)
      | some ⟨true, sign, digits⟩ | some ⟨false, sign, digits⟩ =>
          have read := readExponent_complete (exponentDigits _ rfl) denotes ends
          simp only [Numeral.exponentBytes, Exponent.written, List.cons_append, List.append_assoc]
          exact read
  | some run =>
      have found : readFraction (wholeSignificand whole)
          (run ++ (Numeral.exponentBytes exponent ++ rest)) =
            .ok ((run.map digitValue).foldl Significand.pushFraction
              { wholeSignificand whole with full := false },
              Numeral.exponentBytes exponent ++ rest) :=
        readFraction_eq_ok.mpr ⟨run, fractionDigits run rfl, noDigit_exponentBytes ends, rfl, rfl⟩
      simp only [Numeral.fractionBytes, List.cons_append, readNumberTail]
      rw [found]
      match exponent with
      | none =>
          have read := floatNumber_eq_ok.mpr ⟨denotes, Eq.refl rest⟩
          simp only [Numeral.exponentBytes, List.nil_append]
          split
          · next same => cases same
          · next same =>
              cases same
              exact absurd rfl (ends 101 rfl).2.2.1
          · next same =>
              cases same
              exact absurd rfl (ends 69 rfl).2.2.2
          · next same =>
              cases same
              exact read
      | some ⟨true, sign, digits⟩ | some ⟨false, sign, digits⟩ =>
          have read := readExponent_complete (exponentDigits _ rfl) denotes ends
          simp only [Numeral.exponentBytes, Exponent.written, List.cons_append, List.append_assoc]
          exact read

/-- What the reader takes as a number is a numeral. -/
theorem readNumber_sound {input rest : Bytes} {number : Number}
    (read : readNumber input = .ok (number, rest)) :
    ∃ numeral : Numeral, numeral.WellFormed ∧ numeral.number? = some number ∧
      input = numeral.written ++ rest := by
  obtain ⟨positive, unsigned, rfl, readRest⟩ : ∃ positive unsigned,
      input = (if positive then [] else [45]) ++ unsigned ∧
        readUnsigned positive unsigned = .ok (number, rest) := by
    unfold readNumber at read
    split at read
    · next unsigned => exact ⟨false, unsigned, rfl, read⟩
    · exact ⟨true, input, rfl, read⟩
  unfold readUnsigned at readRest
  split at readRest
  · cases readRest
  · next found =>
      obtain ⟨whole, digits, -, rfl, rfl⟩ := readIntegerPart_eq_ok.mp found
      obtain ⟨fraction, exponent, wellFormed, denotes, rfl⟩ := readNumberTail_sound digits readRest
      exact ⟨_, wellFormed, denotes, by simp [Numeral.written]⟩

/-- A numeral is read as the number that it denotes. -/
theorem readNumber_complete {numeral : Numeral} {number : Number} {rest : Bytes}
    (wellFormed : numeral.WellFormed) (denotes : numeral.number? = some number)
    (ends : Ends rest) : readNumber (numeral.written ++ rest) = .ok (number, rest) := by
  have read := readNumberTail_complete wellFormed denotes ends
  obtain ⟨positive, whole, fraction, exponent⟩ := numeral
  have stops : NoDigit (Numeral.fractionBytes fraction ++
      (Numeral.exponentBytes exponent ++ rest)) := by
    cases fraction with
    | none => exact noDigit_exponentBytes ends
    | some run =>
        intro byte mem
        cases mem
        rfl
  have unsigned : readUnsigned positive (whole ++ (Numeral.fractionBytes fraction ++
      (Numeral.exponentBytes exponent ++ rest))) = .ok (number, rest) := by
    have found := readIntegerPart_eq_ok.mpr ⟨whole, wellFormed.whole, stops, rfl, rfl⟩
    unfold readUnsigned
    rw [found]
    exact read
  simp only [Numeral.written, List.append_assoc]
  cases positive with
  | false => exact unsigned
  | true =>
      obtain ⟨⟨some, all⟩, -⟩ := wellFormed.whole
      obtain ⟨first, digits, rfl⟩ := List.exists_cons_of_ne_nil some
      have digit := all first (by simp)
      simp only [if_true, List.nil_append, List.cons_append] at unsigned ⊢
      unfold readNumber
      split
      · next same =>
          cases same
          exact absurd digit (by decide)
      · exact unsigned

end RpcDispatch.Json
