import RpcDispatch.Proofs.Json.Decoding
import RpcDispatch.Proofs.Json.Numbers
import RpcDispatch.Proofs.Json.Strings

/-
This file says that the reader of values takes exactly the texts of the grammar: a byte sequence
is read as a value if and only if it is a text of that value.
-/

namespace RpcDispatch.Json

/-! ### Blanks -/

/-- Blanks in front of any input are skipped. -/
theorem skipBlanks_append {blanks : Bytes} (blank : Blanks blanks) (rest : Bytes) :
    skipBlanks (blanks ++ rest) = skipBlanks rest :=
  List.dropWhile_append_of_pos blank

/-- Nothing is left of blanks alone. -/
theorem skipBlanks_blanks {blanks : Bytes} (blank : Blanks blanks) : skipBlanks blanks = [] := by
  have skipped := skipBlanks_append blank []
  rwa [List.append_nil] at skipped

/-- Blanks are skipped up to the byte that follows them. -/
theorem skipBlanks_before {blanks : Bytes} (blank : Blanks blanks) {byte : UInt8}
    (noBlank : isBlank byte = false) (rest : Bytes) :
    skipBlanks (blanks ++ byte :: rest) = byte :: rest := by
  rw [skipBlanks_append blank, skipBlanks, List.dropWhile_cons_of_neg (by simp [noBlank])]

/-- Every input is some blanks and a rest that does not begin with one. -/
theorem exists_blanks (input : Bytes) :
    ∃ blanks, Blanks blanks ∧ input = blanks ++ skipBlanks input ∧
      ∀ byte ∈ (skipBlanks input).head?, isBlank byte = false := by
  refine ⟨input.takeWhile isBlank, fun byte mem => List.mem_takeWhile_imp mem,
    List.takeWhile_append_dropWhile.symm, fun byte mem => ?_⟩
  have first := List.head?_dropWhile_not isBlank input
  unfold skipBlanks at mem
  rw [Option.mem_def.mp mem] at first
  simpa using first

/-- A blank continues no number. -/
theorem blank_ends {byte : UInt8} (blank : isBlank byte = true) :
    isDigit byte = false ∧ byte ≠ 46 ∧ byte ≠ 101 ∧ byte ≠ 69 := by
  simp only [isBlank, Bool.or_eq_true, beq_iff_eq] at blank
  obtain ((rfl | rfl) | rfl) | rfl := blank <;> decide

/-- A value may end in front of a byte that continues no number. -/
theorem ends_closer {closer : UInt8} {rest : Bytes}
    (noNumber : isDigit closer = false ∧ closer ≠ 46 ∧ closer ≠ 101 ∧ closer ≠ 69) :
    Ends (closer :: rest) := by
  intro byte mem
  cases mem
  exact noNumber

/-- A value may end in front of blanks where it may end without them. -/
theorem ends_blanks {blanks rest : Bytes} (blank : Blanks blanks) (ends : Ends rest) :
    Ends (blanks ++ rest) := by
  cases blanks with
  | nil => exact ends
  | cons byte blanks =>
      intro first mem
      cases mem
      exact blank_ends (blank byte (by simp))

/-! ### The parts between entries -/

/-- How the reader of a container finds the next entry or the bracket that ends the container. -/
structure Separates (next : Bool → Bytes → Except Failure (Bool × Bytes)) (closer : UInt8)
    (opens : UInt8 → Prop) : Prop where
  close : ∀ (first : Bool) {blanks : Bytes} (rest : Bytes), Blanks blanks →
    next first (blanks ++ closer :: rest) = .ok (false, closer :: rest)
  entry : ∀ {first : Bool} {lead : Bytes} {byte : UInt8} (rest : Bytes), EntryLead first lead →
    opens byte → next first (lead ++ byte :: rest) = .ok (true, byte :: rest)
  closed : ∀ {first : Bool} {input rest : Bytes}, next first input = .ok (false, rest) →
    ∃ blanks after, Blanks blanks ∧ input = blanks ++ closer :: after ∧ rest = closer :: after
  entered : ∀ {first : Bool} {input rest : Bytes}, next first input = .ok (true, rest) →
    ∃ lead byte after, EntryLead first lead ∧ opens byte ∧ rest = byte :: after ∧
      input = lead ++ rest

/-- An item starts with a byte that is neither blank nor the closing bracket. -/
def OpensItem (byte : UInt8) : Prop :=
  isBlank byte = false ∧ byte ≠ 93

/-- The reader of a list looks for a comma or the closing bracket. -/
theorem separates_nextItem : Separates nextItem 93 OpensItem where
  close first blanks rest blank := by
    simp [nextItem, skipBlanks_before blank (by decide : isBlank 93 = false)]
  entry {first lead byte} rest lead opens := by
    cases lead with
    | first blank => simp [nextItem, skipBlanks_before blank opens.1, opens.2]
    | later blank blank' =>
        have comma : isBlank 44 = false := by decide
        simp [nextItem, skipBlanks_before blank comma, skipBlanks_before blank' opens.1, opens.2]
  closed {first input rest} next := by
    obtain ⟨blanks, blank, same, -⟩ := exists_blanks input
    unfold nextItem at next
    split at next
    · cases next
    · next after skipped =>
        cases next
        exact ⟨blanks, after, blank, by rw [same, skipped], rfl⟩
    · split at next
      · cases next
      split at next
      · split at next <;> cases next
      · cases next
  entered {first input rest} next := by
    obtain ⟨blanks, blank, same, noBlank⟩ := exists_blanks input
    unfold nextItem at next
    split at next
    · cases next
    · cases next
    · next byte after notCloser skipped =>
        rw [skipped] at same noBlank
        split at next
        · next isFirst =>
            cases next
            subst isFirst
            exact ⟨blanks, byte, after, .first blank,
              ⟨noBlank byte rfl, notCloser⟩, rfl, same⟩
        · next notFirst =>
            split at next
            · next comma =>
                obtain ⟨blanks', blank', same', noBlank'⟩ := exists_blanks after
                split at next
                · cases next
                · cases next
                · next some notCloser' =>
                    cases next
                    rw [Bool.not_eq_true] at notFirst
                    subst notFirst comma
                    obtain ⟨byte, left, found⟩ := List.exists_cons_of_ne_nil some
                    rw [found] at same' noBlank' notCloser' ⊢
                    refine ⟨blanks ++ 44 :: blanks', byte, left, .later blank blank',
                      ⟨noBlank' byte rfl, fun closer => notCloser' _ (by rw [closer])⟩, rfl, ?_⟩
                    rw [same, same', List.append_assoc, List.cons_append]
            · cases next

/-- A member starts with the quote of its name. -/
theorem separates_nextMember : Separates nextMember 125 (· = 34) where
  close first blanks rest blank := by
    simp [nextMember, skipBlanks_before blank (by decide : isBlank 125 = false)]
  entry {first lead byte} rest lead opens := by
    subst opens
    have quote : isBlank 34 = false := by decide
    cases lead with
    | first blank => simp [nextMember, skipBlanks_before blank quote]
    | later blank blank' =>
        have comma : isBlank 44 = false := by decide
        simp [nextMember, skipBlanks_before blank comma, skipBlanks_before blank' quote]
  closed {first input rest} next := by
    obtain ⟨blanks, blank, same, -⟩ := exists_blanks input
    unfold nextMember at next
    split at next
    · cases next
    · next after skipped =>
        cases next
        exact ⟨blanks, after, blank, by rw [same, skipped], rfl⟩
    · split at next
      · split at next <;> cases next
      split at next
      · split at next <;> cases next
      · cases next
  entered {first input rest} next := by
    obtain ⟨blanks, blank, same, -⟩ := exists_blanks input
    unfold nextMember at next
    split at next
    · cases next
    · cases next
    · next byte after _ skipped =>
        rw [skipped] at same
        split at next
        · next isFirst =>
            subst isFirst
            split at next
            · next quote =>
                cases next
                exact ⟨blanks, byte, after, .first blank, quote, rfl, same⟩
            · cases next
        · next notFirst =>
            split at next
            · next comma =>
                obtain ⟨blanks', blank', same', -⟩ := exists_blanks after
                split at next
                · cases next
                · next quoted =>
                    cases next
                    rw [Bool.not_eq_true] at notFirst
                    subst notFirst comma
                    refine ⟨blanks ++ 44 :: blanks', 34, _, .later blank blank', rfl, rfl, ?_⟩
                    rw [same, List.append_assoc, List.cons_append, ← quoted, ← same']
                · cases next
                · cases next
            · cases next

/-! ### Containers -/

section

variable {α : Type}

/-- What the readers of items and of members have in common. -/
def readEntries (next : Bool → Bytes → Except Failure (Bool × Bytes)) (exhausted : Cause)
    (readEntry : Reader α) : (fuel : Nat) → (reversed : List α) → Reader (List α)
  | 0, _, input => .error (.here exhausted input)
  | fuel + 1, reversed, input =>
    match next reversed.isEmpty input with
    | .error failure => .error failure
    | .ok (false, rest) => .ok (reversed.reverse, rest.tail)
    | .ok (true, rest) =>
      match readEntry rest with
      | .error failure => .error failure
      | .ok (entry, rest) => readEntries next exhausted readEntry fuel (entry :: reversed) rest

/-- The items of a list are read by the reader of entries. -/
theorem readItems_eq (readItem : Reader α) (fuel : Nat) (reversed : List α) (input : Bytes) :
    readItems readItem fuel reversed input =
      readEntries nextItem .endOfList readItem fuel reversed input := by
  induction fuel generalizing reversed input with
  | zero => rfl
  | succ fuel ih =>
      unfold readItems readEntries
      rcases nextItem reversed.isEmpty input with failure | ⟨_ | _, rest⟩
      · rfl
      · rfl
      · dsimp only
        rcases readItem rest with failure | ⟨item, later⟩
        · rfl
        · exact ih (item :: reversed) later

/-- The members of an object are read by the reader of entries. -/
theorem readMembers_eq (readItem : Reader α) (fuel : Nat) (reversed : List (String × α))
    (input : Bytes) : readMembers readItem fuel reversed input =
      readEntries nextMember .endOfObject (readMember readItem) fuel reversed input := by
  induction fuel generalizing reversed input with
  | zero => rfl
  | succ fuel ih =>
      unfold readMembers readEntries
      rcases nextMember reversed.isEmpty input with failure | ⟨_ | _, rest⟩
      · rfl
      · rfl
      · dsimp only
        rcases readMember readItem rest with failure | ⟨member, later⟩
        · rfl
        · exact ih (member :: reversed) later

/-- At a byte that opens one, the reader takes the texts of the relation, as far as they are
shorter than the limit. -/
structure Takes (reader : Reader α) (opens : UInt8 → Prop) (text : α → Bytes → Prop)
    (limit : Nat) : Prop where
  opened : ∀ {meant : α} {written : Bytes}, text meant written →
    ∃ byte after, written = byte :: after ∧ opens byte
  sound : ∀ {byte : UInt8} {after rest : Bytes} {meant : α}, opens byte →
    reader (byte :: after) = .ok (meant, rest) →
      ∃ written, text meant written ∧ byte :: after = written ++ rest
  complete : ∀ {written rest : Bytes} {meant : α}, text meant written → written.length < limit →
    Ends rest → reader (written ++ rest) = .ok (meant, rest)

variable {next : Bool → Bytes → Except Failure (Bool × Bytes)} {closer : UInt8}
  {opens : UInt8 → Prop} {exhausted : Cause} {readEntry : Reader α} {text : α → Bytes → Prop}
  {limit : Nat}

/-- The entries of a container are followed by a byte that ends a number. -/
theorem ends_entries {items : List α} {body rest : Bytes} (entries : Entries text false items body)
    (ends : Ends rest) : Ends (body ++ rest) := by
  cases entries with
  | none blank => exact ends_blanks blank ends
  | entry apart form entries =>
      cases apart with
      | later blank blank' =>
          simp only [List.append_assoc, List.cons_append]
          exact ends_blanks blank fun byte mem => by cases mem; decide

/-- The entries that are read stand in the input, up to the closing bracket. -/
theorem readEntries_sound (separates : Separates next closer opens)
    (takes : Takes readEntry opens text limit) {fuel : Nat} {reversed items : List α}
    {input rest : Bytes}
    (read : readEntries next exhausted readEntry fuel reversed input = .ok (items, rest)) :
    ∃ later body, Entries text reversed.isEmpty later body ∧ items = reversed.reverse ++ later ∧
      input = body ++ closer :: rest := by
  induction fuel generalizing reversed input with
  | zero => cases read
  | succ fuel ih =>
      rw [readEntries] at read
      split at read
      · cases read
      · next found =>
          cases read
          obtain ⟨blanks, after, blank, rfl, rfl⟩ := separates.closed found
          exact ⟨[], blanks, .none blank, (List.append_nil _).symm, rfl⟩
      · next found =>
          obtain ⟨lead, byte, after, apart, opened, rfl, rfl⟩ := separates.entered found
          split at read
          · cases read
          · next taken =>
              obtain ⟨written, form, same⟩ := takes.sound opened taken
              obtain ⟨later, body, entries, rfl, rfl⟩ := ih read
              exact ⟨_, _, .entry apart form entries, by simp, by simp [same]⟩

/-- Entries that stand in the input in front of a closing bracket are read, given fuel for each
byte. -/
theorem readEntries_complete (separates : Separates next closer opens)
    (takes : Takes readEntry opens text limit) (endsCloser : ∀ rest, Ends (closer :: rest))
    {first : Bool} {items : List α} {body : Bytes} (entries : Entries text first items body)
    {fuel : Nat} (enough : body.length < fuel) (short : body.length < limit) {reversed : List α}
    (state : reversed.isEmpty = first) (rest : Bytes) :
    readEntries next exhausted readEntry fuel reversed (body ++ closer :: rest) =
      .ok (reversed.reverse ++ items, rest) := by
  induction entries generalizing fuel reversed with
  | none blank =>
      obtain ⟨fuel, rfl⟩ := Nat.exists_eq_add_one_of_ne_zero (Nat.ne_zero_of_lt enough)
      rw [readEntries, separates.close _ rest blank]
      simp
  | @entry first item items lead written others apart form entries ih =>
      obtain ⟨fuel, rfl⟩ := Nat.exists_eq_add_one_of_ne_zero (Nat.ne_zero_of_lt enough)
      obtain ⟨byte, tail, rfl, openByte⟩ := takes.opened form
      simp only [List.length_append, List.length_cons] at enough short
      have ends := ends_entries entries (endsCloser rest)
      have taken := takes.complete form (by rw [List.length_cons]; omega) ends
      rw [List.append_assoc, List.append_assoc, List.cons_append, readEntries, state,
        separates.entry _ apart openByte]
      simp only [List.cons_append] at taken ⊢
      rw [taken]
      simp only
      rw [ih (by omega) (by omega) (by simp)]
      simp

/-! ### Members -/

/-- A colon is read with the blanks before it. -/
theorem readColon_eq_ok {input rest : Bytes} :
    readColon input = .ok ((), rest) ↔ ∃ blanks, Blanks blanks ∧ input = blanks ++ 58 :: rest := by
  constructor
  · intro read
    obtain ⟨blanks, blank, same, -⟩ := exists_blanks input
    unfold readColon at read
    split at read
    · cases read
    · next after skipped =>
        cases read
        exact ⟨blanks, blank, by rw [same, skipped]⟩
    · cases read
  · rintro ⟨blanks, blank, rfl⟩
    unfold readColon
    rw [skipBlanks_before blank (by decide)]
    rfl

/-- The reader skips blanks and takes the texts of the relation, as far as they are shorter than
the limit. -/
structure TakesValue (reader : Reader α) (text : α → Bytes → Prop) (limit : Nat) : Prop where
  opened : ∀ {meant : α} {written : Bytes}, text meant written →
    ∃ byte after, written = byte :: after ∧ OpensItem byte
  sound : ∀ {input rest : Bytes} {meant : α}, reader input = .ok (meant, rest) →
    ∃ written, text meant written ∧ skipBlanks input = written ++ rest
  complete : ∀ {input written rest : Bytes} {meant : α}, text meant written →
    written.length < limit → Ends rest → skipBlanks input = written ++ rest →
      reader input = .ok (meant, rest)

/-- The text of a value does not begin with a blank. -/
theorem TakesValue.skipBlanks_eq {reader : Reader α} (takes : TakesValue reader text limit)
    {written : Bytes} {meant : α} (form : text meant written) {blanks : Bytes}
    (blank : Blanks blanks) (rest : Bytes) :
    skipBlanks (blanks ++ (written ++ rest)) = written ++ rest := by
  obtain ⟨byte, after, rfl, opened⟩ := takes.opened form
  exact skipBlanks_before blank opened.1 (after ++ rest)

/-- A reader of values reads the items of a list. -/
theorem TakesValue.item {reader : Reader α} (takes : TakesValue reader text limit) :
    Takes reader OpensItem text limit where
  opened := takes.opened
  sound opened read := by
    obtain ⟨written, form, same⟩ := takes.sound read
    exact ⟨written, form, (skipBlanks_before blanks_nil opened.1 _).symm.trans same⟩
  complete form short ends :=
    takes.complete form short ends (takes.skipBlanks_eq form blanks_nil _)

/-- A reader of values reads the members of an object. -/
theorem TakesValue.member {reader : Reader α} (takes : TakesValue reader text limit) :
    Takes (readMember reader) (· = 34) (MemberText text) limit where
  opened form := by
    cases form with
    | member named blank blank' form =>
        cases named
        exact ⟨34, _, rfl, rfl⟩
  sound {byte after rest meant} opened read := by
    subst opened
    unfold readMember at read
    split at read
    · cases read
    · next name afterName named =>
        obtain ⟨nameBytes, nameForm, same⟩ := readString_eq_ok.mp named
        split at read
        · cases read
        · next afterColon colon =>
            obtain ⟨before, blank, rfl⟩ := readColon_eq_ok.mp colon
            split at read
            · cases read
            · next taken =>
                cases read
                obtain ⟨valueBytes, form, same'⟩ := takes.sound taken
                obtain ⟨blanks, blank', whole, -⟩ := exists_blanks afterColon
                refine ⟨_, .member nameForm blank blank' form, ?_⟩
                rw [same, whole, same']
                simp
  complete {written rest meant} form short ends := by
    cases form with
    | @member name value nameBytes before after valueBytes named blank blank' form =>
        simp only [List.length_append, List.length_cons] at short
        obtain ⟨byte, tail, rfl, quote⟩ : ∃ byte tail, nameBytes = byte :: tail ∧ byte = 34 := by
          cases named
          exact ⟨34, _, rfl, rfl⟩
        subst quote
        have found : readString (34 :: (tail ++ (before ++ 58 :: (after ++ (valueBytes ++ rest))))) =
            .ok (name, before ++ 58 :: (after ++ (valueBytes ++ rest))) :=
          readString_eq_ok.mpr ⟨_, named, rfl⟩
        have colon : readColon (before ++ 58 :: (after ++ (valueBytes ++ rest))) =
            .ok ((), after ++ (valueBytes ++ rest)) :=
          readColon_eq_ok.mpr ⟨before, blank, rfl⟩
        have taken := takes.complete form (by omega) ends (takes.skipBlanks_eq form blank' rest)
        simp only [List.append_assoc, List.cons_append, readMember]
        rw [found]
        simp only
        rw [colon]
        simp only
        rw [taken]

/-! ### Values -/

/-- A word is read only where it stands. -/
theorem readWord_eq_ok {letters input rest : Bytes} :
    readWord letters input = .ok ((), rest) ↔ input = letters ++ rest := by
  induction letters generalizing input with
  | nil => simp [readWord, eq_comm]
  | cons letter letters ih =>
      cases input with
      | nil => simp [readWord]
      | cons byte input =>
          rw [readWord]
          by_cases same : byte = letter
          · simp [same, ih]
          · simp [same]

end

/-- The inputs that a value can begin with, by their leads. -/
theorem Lead.ofInput_cases (input : Bytes) :
    (ofInput input = absent ∨ ofInput input = other) ∨
    (∃ rest, input = 110 :: rest ∧ ofInput input = nullWord) ∨
    (∃ rest, input = 116 :: rest ∧ ofInput input = trueWord) ∨
    (∃ rest, input = 102 :: rest ∧ ofInput input = falseWord) ∨
    (ofInput input = minus ∨ ofInput input = digit) ∨
    (∃ rest, input = 34 :: rest ∧ ofInput input = quote) ∨
    (∃ rest, input = 91 :: rest ∧ ofInput input = bracket) ∨
    (∃ rest, input = 123 :: rest ∧ ofInput input = brace) := by
  unfold ofInput
  split
  case h_9 => split <;> simp
  all_goals simp

theorem Lead.ofInput_digit {byte : UInt8} (digit : isDigit byte = true) (rest : Bytes) :
    ofInput (byte :: rest) = .digit := by
  unfold ofInput
  split
  case h_9 same =>
    cases same
    rw [if_pos digit]
  case h_1 same => cases same
  all_goals
    next same =>
      cases same
      exact absurd digit (by decide)

/-- A numeral starts with its sign or a digit. -/
theorem Numeral.WellFormed.starts {numeral : Numeral} (wellFormed : numeral.WellFormed) :
    ∃ byte after, numeral.written = byte :: after ∧ (byte = 45 ∨ isDigit byte = true) := by
  obtain ⟨⟨some, all⟩, -⟩ := wellFormed.whole
  obtain ⟨first, digits, same⟩ := List.exists_cons_of_ne_nil some
  have digit := all first (by simp [same])
  unfold Numeral.written
  cases numeral.positive with
  | false => exact ⟨45, _, rfl, .inl rfl⟩
  | true =>
      rw [same]
      exact ⟨first, _, rfl, .inr digit⟩

theorem not_blank_of_digit {byte : UInt8} (digit : isDigit byte = true) :
    OpensItem byte := by
  constructor
  · apply Bool.eq_false_iff.mpr
    intro blank
    rw [(blank_ends blank).1] at digit
    cases digit
  · rintro rfl
    exact absurd digit (by decide)

/-- The reader and the texts of nested values go together. -/
inductive Nested (limit : Nat) : Option (Reader Value) → Option (Value → Bytes → Prop) → Prop where
  | none : Nested limit none none
  | some {reader : Reader Value} {text : Value → Bytes → Prop}
      (takes : TakesValue reader text limit) : Nested limit (some reader) (some text)

/-- The form of a value begins with a byte that may open an item. -/
theorem ValueForm.opened {nested : Option (Value → Bytes → Prop)} {value : Value} {written : Bytes}
    (form : ValueForm nested value written) :
    ∃ byte after, written = byte :: after ∧ OpensItem byte := by
  cases form with
  | null | true | false | array | object => exact ⟨_, _, rfl, by decide, by decide⟩
  | number wellFormed =>
      obtain ⟨byte, after, same, rfl | digit⟩ := wellFormed.starts
      · exact ⟨45, after, same, by decide, by decide⟩
      · exact ⟨byte, after, same, not_blank_of_digit digit⟩
  | string form =>
      cases form
      exact ⟨34, _, rfl, by decide, by decide⟩

/-- A value that is read has a form in front of what is left. -/
theorem readValueWith_sound {fuel : Nat} {reader : Option (Reader Value)}
    {nested : Option (Value → Bytes → Prop)} (matched : Nested fuel reader nested)
    {input rest : Bytes} {value : Value}
    (read : readValueWith fuel reader input = .ok (value, rest)) :
    ∃ written, ValueForm nested value written ∧ skipBlanks input = written ++ rest := by
  unfold readValueWith at read
  simp only at read
  generalize skipBlanks input = input at read
  obtain (lead | lead) | ⟨after, rfl, lead⟩ | ⟨after, rfl, lead⟩ | ⟨after, rfl, lead⟩ |
    (lead | lead) | ⟨after, rfl, lead⟩ | ⟨after, rfl, lead⟩ | ⟨after, rfl, lead⟩ :=
    Lead.ofInput_cases input <;> simp only [lead] at read
  · cases read
  · cases read
  · obtain ⟨⟨_, left⟩, word, same⟩ := map_eq_ok.mp read
    cases same
    have letters : after = [117, 108, 108] ++ left := readWord_eq_ok.mp word
    exact ⟨_, .null, by rw [letters]; rfl⟩
  · obtain ⟨⟨_, left⟩, word, same⟩ := map_eq_ok.mp read
    cases same
    have letters : after = [114, 117, 101] ++ left := readWord_eq_ok.mp word
    exact ⟨_, .true, by rw [letters]; rfl⟩
  · obtain ⟨⟨_, left⟩, word, same⟩ := map_eq_ok.mp read
    cases same
    have letters : after = [97, 108, 115, 101] ++ left := readWord_eq_ok.mp word
    exact ⟨_, .false, by rw [letters]; rfl⟩
  · obtain ⟨⟨number, left⟩, taken, same⟩ := map_eq_ok.mp read
    cases same
    obtain ⟨numeral, wellFormed, denotes, same⟩ := readNumber_sound taken
    exact ⟨_, .number wellFormed denotes, same⟩
  · obtain ⟨⟨number, left⟩, taken, same⟩ := map_eq_ok.mp read
    cases same
    obtain ⟨numeral, wellFormed, denotes, same⟩ := readNumber_sound taken
    exact ⟨_, .number wellFormed denotes, same⟩
  · obtain ⟨⟨text, left⟩, taken, same⟩ := map_eq_ok.mp read
    cases same
    obtain ⟨written, form, same⟩ := readString_eq_ok.mp taken
    exact ⟨_, .string form, same⟩
  · cases matched with
    | none => cases read
    | some takes =>
        obtain ⟨⟨items, left⟩, taken, same⟩ := map_eq_ok.mp read
        cases same
        rw [readItems_eq] at taken
        obtain ⟨later, body, entries, rfl, same⟩ :=
          readEntries_sound separates_nextItem takes.item taken
        exact ⟨_, .array rfl entries, by simpa using same⟩
  · cases matched with
    | none => cases read
    | some takes =>
        obtain ⟨⟨members, left⟩, taken, same⟩ := map_eq_ok.mp read
        cases same
        rw [readMembers_eq] at taken
        obtain ⟨later, body, entries, rfl, same⟩ :=
          readEntries_sound separates_nextMember takes.member taken
        exact ⟨_, .object rfl entries (collects_collectMembers _), by simpa using same⟩

/-- A form of a value that may end there is read, given fuel for each of its bytes. -/
theorem readValueWith_complete {fuel : Nat} {reader : Option (Reader Value)}
    {nested : Option (Value → Bytes → Prop)} (matched : Nested fuel reader nested)
    {input written rest : Bytes} {value : Value} (form : ValueForm nested value written)
    (short : written.length < fuel) (ends : Ends rest)
    (here : skipBlanks input = written ++ rest) :
    readValueWith fuel reader input = .ok (value, rest) := by
  unfold readValueWith
  simp only [here]
  cases form with
  | null | true | false => rfl
  | number wellFormed denotes =>
      have read := readNumber_complete wellFormed denotes ends
      obtain ⟨byte, after, same, rfl | digit⟩ := wellFormed.starts
      · rw [same] at read ⊢
        exact map_eq_ok.mpr ⟨_, read, rfl⟩
      · rw [same] at read ⊢
        rw [List.cons_append, Lead.ofInput_digit digit]
        exact map_eq_ok.mpr ⟨_, read, rfl⟩
  | string form =>
      cases form with
      | quoted pieces =>
          exact map_eq_ok.mpr ⟨_, readString_eq_ok.mpr ⟨_, .quoted pieces, rfl⟩, rfl⟩
  | @array item items body within entries =>
      cases matched with
      | none => cases within
      | @some reader _ takes =>
          cases within
          rw [List.length_append, List.length_cons] at short
          have read : readItems reader fuel [] (body ++ 93 :: rest) = .ok (items, rest) := by
            rw [readItems_eq]
            exact readEntries_complete separates_nextItem takes.item
              (fun rest => ends_closer (by decide)) entries (by omega) (by omega) rfl rest
          simp only [List.cons_append, List.append_assoc, List.nil_append, List.tail_cons]
          exact map_eq_ok.mpr ⟨_, read, rfl⟩
  | @object item pairs members body within entries collects =>
      cases matched with
      | none => cases within
      | @some reader _ takes =>
          cases within
          rw [List.length_append, List.length_cons] at short
          have read : readMembers reader fuel [] (body ++ 125 :: rest) = .ok (pairs, rest) := by
            rw [readMembers_eq]
            exact readEntries_complete separates_nextMember takes.member
              (fun rest => ends_closer (by decide)) entries (by omega) (by omega) rfl rest
          simp only [List.cons_append, List.append_assoc, List.nil_append, List.tail_cons]
          exact map_eq_ok.mpr ⟨_, read, by rw [collects.eq_collectMembers]⟩

/-- The reader of values takes the texts of values. -/
theorem takesValue_readValue (fuel depth : Nat) :
    TakesValue (readValue fuel depth) (ValueText depth) fuel := by
  induction depth with
  | zero =>
      exact ⟨ValueForm.opened, readValueWith_sound .none, readValueWith_complete .none⟩
  | succ depth ih =>
      exact ⟨ValueForm.opened, readValueWith_sound (.some ih), readValueWith_complete (.some ih)⟩

/-- A byte sequence is read as a value exactly when it is a text of the value. -/
theorem Value.ofBytes_eq_ok {input : Bytes} {value : Value} :
    Value.ofBytes input = .ok value ↔ DocumentText value input := by
  have takes := takesValue_readValue (input.length + 1) maxDepth
  unfold Value.ofBytes readDocument
  constructor
  · intro read
    cases found : readValue (input.length + 1) maxDepth input with
    | error failure =>
        rw [found] at read
        cases read
    | ok result =>
        obtain ⟨value', rest⟩ := result
        rw [found] at read
        simp only at read
        split at read
        · next ended =>
            cases read
            obtain ⟨written, form, same⟩ := takes.sound found
            obtain ⟨before, blank, whole, -⟩ := exists_blanks input
            obtain ⟨after, blank', whole', -⟩ := exists_blanks rest
            rw [ended, List.append_nil] at whole'
            rw [whole, same, whole', ← List.append_assoc]
            exact .document blank blank' form
        · cases read
  · rintro @⟨before, written, after, blank, blank', form⟩
    have ends : Ends after := by
      have ends' := ends_blanks blank' (fun byte mem => nomatch mem : Ends [])
      rwa [List.append_nil] at ends'
    have read := takes.complete form (by simp only [List.length_append]; omega) ends
      (List.append_assoc before written after ▸ takes.skipBlanks_eq form blank after)
    rw [read]
    simp only [skipBlanks_blanks blank']

/-- A byte sequence is the text of one value at most. -/
theorem DocumentText.unique {input : Bytes} {value value' : Value}
    (form : DocumentText value input) (form' : DocumentText value' input) : value = value' := by
  have read := Value.ofBytes_eq_ok.mpr form
  rw [Value.ofBytes_eq_ok.mpr form'] at read
  exact (Except.ok.inj read).symm

end RpcDispatch.Json
