import RpcDispatch.Proofs.Text.Split
import RpcDispatch.Url.Ipv6
import Mathlib.Data.List.Induction
import Mathlib.Data.List.TakeWhile

/-
This file shows that the shortest form of an IPv6 address is read as the address it was written
for.
-/

namespace RpcDispatch.Url

/-! ### Digits -/

/-- A hexadecimal digit is read as what it was printed from. -/
theorem hexValue?_digitChar {value : Nat} (small : value < 16) :
    hexValue? (Nat.digitChar value) = some value := by
  have all : ∀ value < 16, hexValue? (Nat.digitChar value) = some value := by decide
  exact all value small

/-- A hexadecimal digit has one of sixteen values. -/
theorem hexValue?_lt {digit : Char} {value : Nat} (found : hexValue? digit = some value) :
    value < 16 := by
  unfold hexValue? at found
  split_ifs at found with decimal lower upper
  · have last : digit.toNat ≤ 57 := (Char.isDigit_iff_toNat.mp decimal).2
    cases found
    omega
  · rw [Bool.and_eq_true, decide_eq_true_eq, decide_eq_true_eq] at lower
    have last : digit.toNat ≤ 102 := lower.2
    cases found
    omega
  · rw [Bool.and_eq_true, decide_eq_true_eq, decide_eq_true_eq] at upper
    have last : digit.toNat ≤ 70 := upper.2
    cases found
    omega

/-- The digits of a number are hexadecimal digits. -/
theorem mem_toDigits_hex {number : Nat} {digit : Char} (member : digit ∈ Nat.toDigits 16 number) :
    ∃ value < 16, digit = Nat.digitChar value := by
  induction number using Nat.strongRecOn with
  | ind number ih =>
      rw [Nat.toDigits_eq_if (by decide)] at member
      split at member
      · next small => exact ⟨number, small, List.mem_singleton.mp member⟩
      · next large =>
          rcases List.mem_append.mp member with before | last
          · exact ih (number / 16) (by omega) before
          · exact ⟨number % 16, by omega, List.mem_singleton.mp last⟩

namespace Ipv4

/-- A further digit shifts the number by one place. -/
theorem ofDigits_append (base : Nat) (digits : List Char) (digit : Char) :
    ofDigits base (digits ++ [digit]) =
      ofDigits base digits * base + (hexValue? digit).getD 0 := by
  simp [ofDigits]

/-- The digits of a number are read as the number. -/
theorem ofDigits_toDigits {base : Nat} (several : 1 < base) (most : base ≤ 16) (number : Nat) :
    ofDigits base (Nat.toDigits base number) = number := by
  induction number using Nat.strongRecOn with
  | ind number ih =>
      rw [Nat.toDigits_eq_if several]
      split
      · next small => simp [ofDigits, hexValue?_digitChar (Nat.lt_of_lt_of_le small most)]
      · next large =>
          have last : number % base < base := Nat.mod_lt number (by omega)
          have fewer : number / base < number := Nat.div_lt_self (by omega) several
          rw [ofDigits_append, ih _ fewer, hexValue?_digitChar (Nat.lt_of_lt_of_le last most),
            Option.getD_some, Nat.div_add_mod']

/-- A number of so many digits is below the power of the base. -/
theorem ofDigits_lt (digits : List Char) :
    ofDigits 16 digits < Nat.pow 16 digits.length := by
  induction digits using List.reverseRecOn with
  | nil => decide
  | append_singleton digits digit ih =>
      have last : (hexValue? digit).getD 0 < 16 := by
        cases found : hexValue? digit with
        | none => decide
        | some value => exact hexValue?_lt found
      have more : Nat.pow 16 (digits ++ [digit]).length = Nat.pow 16 digits.length * 16 := by
        rw [List.length_append, List.length_singleton]
        rfl
      rw [ofDigits_append, more]
      omega

/-- A part of an address with dots is a byte. -/
theorem byte?_lt {digits : List Char} {byte : Nat} (found : byte? digits = some byte) :
    byte < 256 := by
  unfold byte? at found
  split_ifs at found with _ _ small
  cases found
  exact small

end Ipv4

namespace Ipv6

/-! ### What is read -/

/-- Eight groups of sixteen bits. -/
structure IsAddress (groups : List Nat) : Prop where
  count : groups.length = 8
  small : ∀ group ∈ groups, group < 0x10000

/-- A group has sixteen bits. -/
theorem group?_lt {digits : List Char} {group : Nat} (found : group? digits = some group) :
    group < 0x10000 := by
  unfold group? at found
  split_ifs at found with size _
  rw [Bool.or_eq_true, decide_eq_true_eq, not_or] at size
  cases found
  calc Ipv4.ofDigits 16 digits < Nat.pow 16 digits.length := Ipv4.ofDigits_lt digits
    _ ≤ Nat.pow 16 4 := Nat.pow_le_pow_right (by decide) (Nat.le_of_not_lt size.2)

/-- The four parts of an address with dots are bytes. -/
theorem bytes?_lt {text : List Char} {first second third fourth : Nat}
    (found : Ipv4.bytes? text = some (first, second, third, fourth)) :
    first < 256 ∧ second < 256 ∧ third < 256 ∧ fourth < 256 := by
  unfold Ipv4.bytes? at found
  split at found
  · simp only [Option.pure_def, Option.bind_eq_bind, Option.bind_eq_some_iff,
      Option.some.injEq, Prod.mk.injEq] at found
    obtain ⟨_, one, _, two, _, three, _, four, rfl, rfl, rfl, rfl⟩ := found
    exact ⟨Ipv4.byte?_lt one, Ipv4.byte?_lt two, Ipv4.byte?_lt three, Ipv4.byte?_lt four⟩
  · cases found

/-- Every group that is read has sixteen bits. -/
theorem groups?_small {parts : List (List Char)} {groups : List Nat}
    (found : groups? parts = some groups) : ∀ group ∈ groups, group < 0x10000 := by
  fun_induction groups? parts generalizing groups with
  | case1 =>
      cases found
      exact nofun
  | case2 last dotted =>
      obtain ⟨⟨first, second, third, fourth⟩, bytes, rfl⟩ := Option.map_eq_some_iff.mp found
      obtain ⟨one, two, three, four⟩ := bytes?_lt bytes
      simp only [List.forall_mem_cons, List.not_mem_nil, false_implies, implies_true, and_true]
      omega
  | case3 last _ =>
      obtain ⟨group, read, rfl⟩ := Option.map_eq_some_iff.mp found
      simpa using group?_lt read
  | case4 part parts _ ih =>
      simp only [Option.pure_def, Option.bind_eq_bind, Option.bind_eq_some_iff,
        Option.some.injEq] at found
      obtain ⟨group, read, later, rest, rfl⟩ := found
      exact List.forall_mem_cons.mpr ⟨group?_lt read, ih rest⟩

/-- Filled groups are an address. -/
theorem fill?_isAddress {before after : List (List Char)} {groups : List Nat}
    (found : fill? before after = some groups) : IsAddress groups := by
  simp only [fill?, Option.bind_eq_bind, Option.bind_eq_some_iff, Option.pure_def] at found
  obtain ⟨front, first, back, last, whole⟩ := found
  split at whole
  · next room =>
      cases whole
      have count : (front ++ List.replicate (8 - (front.length + back.length)) 0 ++ back).length =
          8 := by
        simp only [List.length_append, List.length_replicate]
        omega
      refine ⟨count, fun group member => ?_⟩
      rcases List.mem_append.mp member with member | member
      · rcases List.mem_append.mp member with member | member
        · exact groups?_small first group member
        · rw [List.eq_of_mem_replicate member]
          decide
      · exact groups?_small last group member
  · cases whole

/-- What is read is an address. -/
theorem parse?_isAddress {text : List Char} {groups : List Nat}
    (found : parse? text = some groups) : IsAddress groups := by
  unfold parse? at found
  dsimp only at found
  split at found
  · obtain ⟨read, count⟩ := Option.filter_eq_some_iff.mp found
    exact ⟨by simpa using count, groups?_small read⟩
  · split at found
    · cases found
    · exact fill?_isAddress found
  · cases found
  · split at found
    · cases found
    · exact fill?_isAddress found

/-! ### What is written -/

/-- What is no hexadecimal digit does not stand in a printed group. -/
theorem not_mem_groupChars {group : Nat} {mark : Char}
    (other : ∀ value < 16, mark ≠ Nat.digitChar value) : mark ∉ groupChars group := by
  intro member
  obtain ⟨value, small, same⟩ := mem_toDigits_hex member
  exact other value small same

/-- A group is read from its printed digits. -/
theorem group?_groupChars {group : Nat} (small : group < 0x10000) :
    group? (groupChars group) = some group := by
  have filled : (groupChars group).isEmpty = false :=
    List.isEmpty_eq_false_iff.mpr Nat.toDigits_ne_nil
  have few : (groupChars group).length ≤ 4 :=
    (Nat.length_toDigits_le_iff (by decide) (by decide)).mpr small
  have digits : (groupChars group).all (fun digit => (hexValue? digit).isSome) = true := by
    rw [List.all_eq_true]
    intro digit member
    obtain ⟨value, fits, rfl⟩ := mem_toDigits_hex member
    rw [hexValue?_digitChar fits]
    rfl
  rw [group?, filled, if_neg (by simpa using few), if_pos digits, groupChars,
    Ipv4.ofDigits_toDigits (by decide) (by decide)]

/-- Groups are read from their printed digits. -/
theorem groups?_groupChars {groups : List Nat} (small : ∀ group ∈ groups, group < 0x10000) :
    groups? (groups.map groupChars) = some groups := by
  induction groups with
  | nil => rfl
  | cons group rest ih =>
      obtain ⟨first, later⟩ := List.forall_mem_cons.mp small
      cases rest with
      | nil =>
          have plain : '.' ∉ groupChars group := not_mem_groupChars (by decide)
          simp [groups?, plain, group?_groupChars first]
      | cons next rest =>
          simp only [List.map_cons] at ih ⊢
          simp [groups?, group?_groupChars first, ih later]

/-- The digits of a list of groups, cut at the colons between them. -/
theorem splitAt_joinAt_groupChars {groups : List Nat} (filled : groups ≠ []) :
    Text.splitAt ':' (Text.joinAt ':' (groups.map groupChars)) = groups.map groupChars := by
  apply Text.splitAt_joinAt
  · intro part member
    obtain ⟨group, _, rfl⟩ := List.mem_map.mp member
    exact not_mem_groupChars (by decide)
  · simpa using filled

/-- An address is written with digits and colons. -/
theorem mem_chars {groups : List Nat} {character : Char} (member : character ∈ chars groups) :
    character = ':' ∨ ∃ value < 16, character = Nat.digitChar value := by
  have joined {groups : List Nat}
      (member : character ∈ Text.joinAt ':' (groups.map groupChars)) :
      character = ':' ∨ ∃ value < 16, character = Nat.digitChar value := by
    rcases Text.mem_joinAt member with mark | ⟨part, belongs, inside⟩
    · exact .inl mark
    · obtain ⟨group, _, rfl⟩ := List.mem_map.mp belongs
      exact .inr (mem_toDigits_hex inside)
  unfold chars at member
  split at member
  · exact joined member
  · simp only [List.mem_append, List.mem_cons] at member
    rcases member with before | mark | mark | after
    · exact joined before
    · exact .inl mark
    · exact .inl mark
    · exact joined after

/-- A list starts with as many zeros as are counted. -/
theorem zeroRun_spec (groups : List Nat) :
    groups = List.replicate (zeroRun groups) 0 ++ groups.drop (zeroRun groups) := by
  induction groups with
  | nil => rfl
  | cons group rest ih =>
      by_cases zero : group = 0
      · subst zero
        simpa [zeroRun, List.replicate_succ] using ih
      · simp [zeroRun, zero]

/-- A run that is found is a run of zeros, and there is more than one. -/
theorem longestRun_eq_some {groups : List Nat} {start length : Nat}
    (found : longestRun groups = some (start, length)) :
    1 < length ∧ groups =
      groups.take start ++ (List.replicate length 0 ++ groups.drop (start + length)) := by
  have keeps (starts : List Nat) : ∀ best : Option (Nat × Nat),
      (∀ run, best = some run → 1 < run.2 ∧ run.2 = zeroRun (groups.drop run.1)) →
      ∀ run, starts.foldl (fun best start =>
        let length := zeroRun (groups.drop start)
        if 1 < length && best.all (·.2 < length) then some (start, length) else best) best =
          some run → 1 < run.2 ∧ run.2 = zeroRun (groups.drop run.1) := by
    induction starts with
    | nil => exact fun best holds => holds
    | cons start starts ih =>
        intro best holds
        refine ih _ fun run same => ?_
        dsimp only at same
        split at same
        · next longer =>
            cases same
            rw [Bool.and_eq_true, decide_eq_true_eq] at longer
            exact ⟨longer.1, rfl⟩
        · exact holds run same
  obtain ⟨several, count⟩ := keeps _ none nofun _ found
  refine ⟨several, ?_⟩
  have rest := zeroRun_spec (groups.drop start)
  rw [← count, List.drop_drop] at rest
  rw [← rest, List.take_append_drop]

/-- Two colons in the place of several zero groups are read as those groups. -/
theorem fill?_groupChars {front back : List Nat} {length : Nat} (several : 1 < length)
    (address : IsAddress (front ++ (List.replicate length 0 ++ back))) :
    fill? (front.map groupChars) (Text.splitAt ':' (Text.joinAt ':' (back.map groupChars))) =
      some (front ++ (List.replicate length 0 ++ back)) := by
  obtain ⟨count, small⟩ := address
  simp only [List.length_append, List.length_replicate] at count
  have first : groups? (front.map groupChars) = some front :=
    groups?_groupChars fun group member => small group (by simp [member])
  have last : groups? (back.map groupChars) = some back :=
    groups?_groupChars fun group member => small group (by simp [member])
  -- Nothing behind the double colon is cut into one empty part.
  have behind :
      let after := Text.splitAt ':' (Text.joinAt ':' (back.map groupChars))
      (if after = [[]] then [] else after) = back.map groupChars := by
    cases back with
    | nil => rfl
    | cons group rest =>
        rw [splitAt_joinAt_groupChars (List.cons_ne_nil group rest)]
        have digits : groupChars group ≠ [] := Nat.toDigits_ne_nil
        simp [digits]
  have length' : 8 - (front.length + back.length) = length := by omega
  simp only [fill?, behind, first, last, Option.bind_eq_bind, Option.bind_some, length']
  rw [if_pos (by omega), Option.pure_def, List.append_assoc]

/-! ### Reading what is written -/

/-- A text without a double colon is read as the groups of all its parts. -/
theorem parse?_whole {text : List Char} {parts : List (List Char)}
    (cut : Text.splitAt ':' text = parts) (filled : ∀ part ∈ parts, (!part.isEmpty) = true) :
    parse? text = (groups? parts).filter (·.length = 8) := by
  unfold parse?
  dsimp only
  rw [cut, List.takeWhile_eq_self_iff.mpr filled, List.dropWhile_eq_nil_iff.mpr filled]

/-- A text is read as the groups before and after its double colon. -/
theorem parse?_double {text : List Char} {before after : List (List Char)}
    (cut : Text.splitAt ':' text = (if before = [] then [[]] else before) ++ [] :: after)
    (filled : ∀ part ∈ before, (!part.isEmpty) = true)
    (undotted : before.any (·.contains '.') = false) (more : after ≠ []) :
    parse? text = fill? before after := by
  unfold parse?
  dsimp only
  rw [cut]
  cases before with
  | nil => simp [more]
  | cons first rest =>
      have last : ([] :: after).takeWhile (fun part => !part.isEmpty) = [] := rfl
      have here : ([] :: after).dropWhile (fun part => !part.isEmpty) = [] :: after := rfl
      rw [if_neg (List.cons_ne_nil first rest), List.takeWhile_append_of_pos filled,
        List.dropWhile_append_of_pos filled, last, here, List.append_nil]
      simp only [undotted, more, decide_false, Bool.or_self, Bool.false_eq_true, if_false]

/-- A printed group is not empty. -/
theorem groupChars_filled (groups : List Nat) :
    ∀ part ∈ groups.map groupChars, (!part.isEmpty) = true := by
  intro part member
  obtain ⟨group, _, rfl⟩ := List.mem_map.mp member
  rw [Bool.not_eq_true', List.isEmpty_eq_false_iff]
  exact Nat.toDigits_ne_nil

/-- A printed group has no dot. -/
theorem groupChars_undotted (groups : List Nat) :
    (groups.map groupChars).any (·.contains '.') = false := by
  rw [List.any_eq_false]
  intro part member
  obtain ⟨group, _, rfl⟩ := List.mem_map.mp member
  have absent : '.' ∉ groupChars group := not_mem_groupChars (by decide)
  simpa using absent

/-- Groups that were written around a double colon are read on both sides of it. -/
theorem parse?_groupChars (front back : List Nat) :
    parse? (Text.joinAt ':' (front.map groupChars) ++
        ':' :: ':' :: Text.joinAt ':' (back.map groupChars)) =
      fill? (front.map groupChars)
        (Text.splitAt ':' (Text.joinAt ':' (back.map groupChars))) := by
  have before : Text.splitAt ':' (Text.joinAt ':' (front.map groupChars)) =
      if front.map groupChars = [] then [[]] else front.map groupChars := by
    cases front with
    | nil => rfl
    | cons group rest =>
        rw [splitAt_joinAt_groupChars (List.cons_ne_nil group rest)]
        simp
  refine parse?_double ?_ (groupChars_filled front) (groupChars_undotted front)
    (Text.splitAt_ne_nil ':' _)
  rw [Text.splitAt_append, before]
  rfl

/-- An address is read from its shortest form. -/
theorem parse?_chars {groups : List Nat} (address : IsAddress groups) :
    parse? (chars groups) = some groups := by
  unfold chars
  split
  · have nonempty : groups ≠ [] := by
      rintro rfl
      cases address.count
    rw [parse?_whole (splitAt_joinAt_groupChars nonempty) (groupChars_filled groups),
      groups?_groupChars address.small]
    simp [address.count]
  · next start length found =>
      obtain ⟨several, whole⟩ := longestRun_eq_some found
      rw [parse?_groupChars]
      rw [whole] at address
      rw [fill?_groupChars several address, ← whole]

end Ipv6

end RpcDispatch.Url
