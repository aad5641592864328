import RpcDispatch.Proofs.Json.Grammar
import RpcDispatch.Proofs.Text.Utf8

/-
This file says that the reader of strings takes exactly the texts that the grammar gives to a
string.
-/

namespace RpcDispatch.Json

open Text.Utf8 (encodeChar encodeChars)

/-! ### Escapes -/

/-- Four hexadecimal digits are read as their unit. -/
theorem readHexEscape_eq_ok {input rest : Bytes} {unit : Nat} :
    readHexEscape input = .ok (unit, rest) ↔
      ∃ digits, HexUnit unit digits ∧ input = digits ++ rest := by
  constructor
  · intro read
    unfold readHexEscape at read
    split at read
    · split at read
      · next hex₁ hex₂ hex₃ hex₄ =>
          cases read
          exact ⟨_, .digits hex₁ hex₂ hex₃ hex₄, rfl⟩
      · cases read
    · cases read
  · rintro ⟨digits, ⟨hex₁, hex₂, hex₃, hex₄⟩, rfl⟩
    simp only [List.cons_append, List.nil_append, readHexEscape, hex₁, hex₂, hex₃, hex₄]

/-- The second half of a pair is read as an escape with a low surrogate. -/
theorem readLowSurrogate_eq_ok {input rest : Bytes} {unit : Nat} :
    readLowSurrogate input = .ok (unit, rest) ↔
      ∃ digits, HexUnit unit digits ∧ isLowSurrogate unit = true ∧
        input = 92 :: 117 :: digits ++ rest := by
  constructor
  · intro read
    unfold readLowSurrogate at read
    split at read
    · cases read
    · cases read
    · next after =>
        split at read
        · next low left found =>
            split at read
            · next isLow =>
                cases read
                obtain ⟨digits, hex, rfl⟩ := readHexEscape_eq_ok.mp found
                exact ⟨digits, hex, isLow, rfl⟩
            · cases read
        · cases read
    · cases read
    · cases read
  · rintro ⟨digits, hex, isLow, rfl⟩
    have found := readHexEscape_eq_ok.mpr ⟨digits, hex, Eq.refl (digits ++ rest)⟩
    simp only [List.cons_append, readLowSurrogate, found, isLow, if_true]

/-- An escape with digits is read as one character, from one unit or from a pair of them. -/
theorem readUnicodeEscape_eq_ok {input rest meant : Bytes} :
    readUnicodeEscape input = .ok (meant, rest) ↔
      ∃ character digits, UnicodeEscape character digits ∧ meant = encodeChar character ∧
        input = digits ++ rest := by
  constructor
  · intro read
    unfold readUnicodeEscape at read
    split at read
    · cases read
    · next unit after found =>
        obtain ⟨digits, hex, rfl⟩ := readHexEscape_eq_ok.mp found
        split at read
        · cases read
        · next notLow =>
            split at read
            · next isHigh =>
                split at read
                · cases read
                · next low left lowFound =>
                    obtain ⟨digits', hex', isLow, rfl⟩ := readLowSurrogate_eq_ok.mp lowFound
                    rw [Except.ok.injEq, Prod.mk.injEq] at read
                    obtain ⟨rfl, rfl⟩ := read
                    exact ⟨surrogateChar unit low, _, .surrogates hex isHigh hex' isLow,
                      by rw [surrogateChar], by simp⟩
            · next notHigh =>
                cases read
                exact ⟨_, digits, .single hex (by simpa using notLow) (by simpa using notHigh),
                  rfl, rfl⟩
  · rintro ⟨character, digits, escape, rfl, rfl⟩
    cases escape with
    | single hex notLow notHigh =>
        have found := readHexEscape_eq_ok.mpr ⟨digits, hex, Eq.refl (digits ++ rest)⟩
        simp only [readUnicodeEscape, found, notLow, notHigh, Bool.false_eq_true, if_false]
    | @surrogates high low first second hex isHigh hex' isLow =>
        have notLow : isLowSurrogate high = false := by
          simp only [isHighSurrogate, isLowSurrogate, Bool.and_eq_true, decide_eq_true_eq,
            Bool.and_eq_false_iff, decide_eq_false_iff_not] at isHigh ⊢
          omega
        have found := readHexEscape_eq_ok.mpr
          ⟨first, hex, Eq.refl (first ++ (92 :: 117 :: second ++ rest))⟩
        have lowFound := readLowSurrogate_eq_ok.mpr
          ⟨second, hex', isLow, Eq.refl (92 :: 117 :: second ++ rest)⟩
        simp only [List.append_assoc, readUnicodeEscape]
        rw [found]
        simp only [notLow, isHigh, Bool.false_eq_true, if_false, if_true, lowFound]
        rfl

/-- An escape is read as what it means. -/
theorem readEscape_eq_ok {input rest meant : Bytes} :
    readEscape input = .ok (meant, rest) ↔
      ∃ written, Escape meant written ∧ input = written ++ rest := by
  constructor
  · intro read
    unfold readEscape at read
    split at read
    case h_10 =>
      obtain ⟨character, digits, escape, rfl, rfl⟩ := readUnicodeEscape_eq_ok.mp read
      exact ⟨_, .unicode escape, rfl⟩
    all_goals cases read
    all_goals exact ⟨_, .short (by decide), rfl⟩
  · rintro ⟨written, escape, rfl⟩
    cases escape with
    | short listed =>
        simp only [shortEscapes, List.mem_cons, Prod.mk.injEq, List.not_mem_nil, or_false]
          at listed
        obtain ⟨rfl, rfl⟩ | ⟨rfl, rfl⟩ | ⟨rfl, rfl⟩ | ⟨rfl, rfl⟩ | ⟨rfl, rfl⟩ | ⟨rfl, rfl⟩ |
          ⟨rfl, rfl⟩ | ⟨rfl, rfl⟩ := listed <;> rfl
    | unicode escape => exact readUnicodeEscape_eq_ok.mpr ⟨_, _, escape, rfl, rfl⟩

/-! ### The bytes of a string -/

/-- The pieces that are read stand in front of the closing quote. -/
theorem readStringBytes_sound {fuel : Nat} {reversed input bytes rest : Bytes}
    (read : readStringBytes fuel reversed input = .ok (bytes, rest)) :
    ∃ meant body, Pieces meant body ∧ bytes = reversed.reverse ++ meant ∧
      input = body ++ 34 :: rest := by
  induction fuel generalizing reversed input with
  | zero => cases read
  | succ fuel ih =>
      cases input with
      | nil => cases read
      | cons byte input =>
          rw [readStringBytes] at read
          split at read
          · next quote =>
              cases read
              exact ⟨[], [], .nil, (List.append_nil _).symm, by rw [quote]; rfl⟩
          split at read
          · next backslash =>
              split at read
              · next taken after escaped =>
                  obtain ⟨written, escape, rfl⟩ := readEscape_eq_ok.mp escaped
                  obtain ⟨meant, body, pieces, rfl, rfl⟩ := ih read
                  exact ⟨_, _, .cons (.escape escape) pieces, by simp, by simp [backslash]⟩
              · cases read
          split at read
          · cases read
          · next noQuote noBackslash printable =>
              obtain ⟨meant, body, pieces, rfl, rfl⟩ := ih read
              exact ⟨_, _, .cons (.plain printable noQuote noBackslash) pieces, by simp,
                by simp⟩

/-- Pieces in front of a closing quote are read, given fuel for each byte. -/
theorem readStringBytes_complete {meant body : Bytes} (pieces : Pieces meant body) {fuel : Nat}
    (enough : body.length < fuel) (reversed rest : Bytes) :
    readStringBytes fuel reversed (body ++ 34 :: rest) = .ok (reversed.reverse ++ meant, rest) := by
  induction pieces generalizing fuel reversed with
  | nil =>
      obtain ⟨fuel, rfl⟩ := Nat.exists_eq_add_one_of_ne_zero (Nat.ne_zero_of_lt enough)
      simp [readStringBytes]
  | @cons meant written meants writtens piece pieces ih =>
      obtain ⟨fuel, rfl⟩ := Nat.exists_eq_add_one_of_ne_zero (Nat.ne_zero_of_lt enough)
      rw [List.length_append] at enough
      cases piece with
      | @plain byte printable noQuote noBackslash =>
          rw [List.length_singleton] at enough
          simp only [List.cons_append, List.nil_append, readStringBytes]
          rw [if_neg noQuote, if_neg noBackslash, if_neg printable, ih (by omega)]
          simp
      | @escape _ written escape =>
          rw [List.length_cons] at enough
          have escaped := readEscape_eq_ok.mpr
            ⟨written, escape, Eq.refl (written ++ (writtens ++ 34 :: rest))⟩
          simp only [List.cons_append, List.append_assoc, readStringBytes]
          rw [if_neg (by decide), if_pos trivial, escaped]
          simp only
          rw [ih (by omega)]
          simp

/-- What the reader takes after a quote is the text of a string. -/
theorem readString_eq_ok {input rest : Bytes} {text : String} :
    readString (34 :: input) = .ok (text, rest) ↔
      ∃ written, StringText text written ∧ 34 :: input = written ++ rest := by
  constructor
  · intro read
    unfold readString at read
    split at read
    · cases read
    · next bytes after found =>
        obtain ⟨meant, body, pieces, same, apart⟩ := readStringBytes_sound found
        rw [List.tail_cons] at apart
        rw [List.reverse_nil, List.nil_append] at same
        subst apart same
        split at read
        · next characters decoded =>
            cases read
            rw [Text.Utf8.decodeLongest_eq_iff.mp decoded] at pieces
            rw [← String.toList_ofList (l := characters)] at pieces
            exact ⟨_, .quoted pieces, by simp⟩
        · cases read
  · rintro ⟨_, @⟨body, pieces⟩, same⟩
    have apart : input = body ++ 34 :: rest := by simpa using same
    subst apart
    have enough : body.length < (34 :: (body ++ 34 :: rest)).length := by
      simp only [List.length_cons, List.length_append]
      omega
    have read := readStringBytes_complete pieces enough [] rest
    have decoded := Text.Utf8.decodeLongest_eq_iff.mpr (Eq.refl (encodeChars text.toList))
    unfold readString
    rw [List.tail_cons, read]
    simp only [List.reverse_nil, List.nil_append]
    rw [show Text.Utf8.encode text = encodeChars text.toList from rfl, decoded]
    simp only [String.ofList_toList]

end RpcDispatch.Json
