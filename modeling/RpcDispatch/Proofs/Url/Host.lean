import RpcDispatch.Proofs.Url.Escape
import RpcDispatch.Proofs.Url.Ipv6
import RpcDispatch.Url.Basic

/-
This file shows that a host which was read is read from its own text, and that a port behind it is
found again.
-/

namespace RpcDispatch.Url

/-! ### Hosts -/

namespace Host

/-- A host that is kept as it is, and that ends at the colon behind it. -/
structure IsSettled (host : List Char) : Prop where
  kept : asWritten host = .ok host
  safe : ∀ character ∈ host, ' ' < character ∧ character ∉ ['/', '?', '#', '@']
  whole : ∀ after, splitHost false (host ++ ':' :: after) = (host, ':' :: after)

/-- Text without colons and brackets belongs to the host. -/
theorem splitHost_plain {host : List Char}
    (plain : ∀ character ∈ host, character ≠ ':' ∧ character ≠ '[') (after : List Char) :
    splitHost false (host ++ ':' :: after) = (host, ':' :: after) := by
  induction host with
  | nil => rfl
  | cons character host ih =>
      obtain ⟨first, later⟩ := List.forall_mem_cons.mp plain
      rw [List.cons_append, splitHost, if_neg (by simp [first.1])]
      simp [first.2, ih later]

/-- Text in brackets belongs to the host up to the bracket that closes it. -/
theorem splitHost_inside {inner : List Char} (inside : ∀ character ∈ inner, character ≠ ']')
    (after : List Char) :
    splitHost true (inner ++ ']' :: ':' :: after) = (inner ++ [']'], ':' :: after) := by
  induction inner with
  | nil => rfl
  | cons character inner ih =>
      obtain ⟨first, later⟩ := List.forall_mem_cons.mp inside
      rw [List.cons_append, splitHost, if_neg (by simp)]
      simp [first, ih later]

/-- A host in brackets is an address. -/
theorem bracketed_eq_ok {text host : List Char} (found : bracketed text = .ok host) :
    ∃ groups, Ipv6.IsAddress groups ∧ host = '[' :: Ipv6.chars groups ++ [']'] := by
  unfold bracketed at found
  split at found
  · split at found
    · next groups read =>
        cases found
        exact ⟨groups, Ipv6.parse?_isAddress read, rfl⟩
    · cases found
  · cases found

theorem bracketed_chars {groups : List Nat} (address : Ipv6.IsAddress groups) :
    bracketed ('[' :: Ipv6.chars groups ++ [']']) = .ok ('[' :: Ipv6.chars groups ++ [']']) := by
  have read := Ipv6.parse?_chars address
  simp [bracketed, read]

theorem isSettled_address {groups : List Nat} (address : Ipv6.IsAddress groups) :
    IsSettled ('[' :: Ipv6.chars groups ++ [']']) where
  kept := bracketed_chars address
  safe character member := by
    have digits : ∀ value < 16, ' ' < Nat.digitChar value ∧
        Nat.digitChar value ∉ ['/', '?', '#', '@'] := by decide
    rw [List.cons_append, List.mem_cons, List.mem_append, List.mem_singleton] at member
    rcases member with rfl | inside | rfl
    · decide
    · rcases Ipv6.mem_chars inside with rfl | ⟨value, small, rfl⟩
      · decide
      · exact digits value small
    · decide
  whole after := by
    have digits : ∀ value < 16, Nat.digitChar value ≠ ']' := by decide
    have inside : ∀ character ∈ Ipv6.chars groups, character ≠ ']' := by
      intro character member
      rcases Ipv6.mem_chars member with rfl | ⟨value, small, rfl⟩
      · decide
      · exact digits value small
    have cut := splitHost_inside inside after
    simp only [List.cons_append, List.append_assoc, List.nil_append, splitHost]
    simp [cut]

theorem isForbidden_escape (character : Char) (escape : IsEscapeChar character) :
    isForbidden character = false := by
  have digits : ∀ value < 16, isForbidden (upperHexDigit value) = false := by decide
  rcases escape with rfl | ⟨value, small, rfl⟩
  · rfl
  · exact digits value small

/-- A host without brackets is settled once it is escaped. -/
theorem isSettled_escaped {text : List Char} (allowed : text.any isForbidden = false) :
    IsSettled (escapeWhere isUnsafe text) := by
  have forbidden : ∀ character ∈ escapeWhere isUnsafe text, isForbidden character = false := by
    intro character member
    rcases mem_escapeWhere member with escape | ⟨stood, _⟩
    · exact isForbidden_escape character escape
    · simpa using List.any_eq_false.mp allowed character stood
  have other {mark character : Char} (barred : isForbidden mark = true)
      (member : character ∈ escapeWhere isUnsafe text) : character ≠ mark := by
    rintro rfl
    rw [forbidden character member] at barred
    cases barred
  refine ⟨?_, fun character member => ?_, splitHost_plain fun character member =>
    ⟨other rfl member, other rfl member⟩⟩
  · have again : escapeWhere isUnsafe (escapeWhere isUnsafe text) = escapeWhere isUnsafe text :=
      escapeWhere_of_safe fun _ => safe_of_mem_escapeWhere isUnsafe_escape
    have free : (escapeWhere isUnsafe text).any isForbidden = false :=
      List.any_eq_false.mpr fun character member => by simp [forbidden character member]
    unfold asWritten
    split
    · next rest same =>
        have bracket : isForbidden '[' = true := rfl
        exact absurd rfl (other bracket (same ▸ List.mem_cons_self))
    · rw [free, again]
      rfl
  · have safe : isUnsafe character = false := safe_of_mem_escapeWhere isUnsafe_escape member
    refine ⟨visible_of_safe safe (other rfl member), ?_⟩
    simp only [List.mem_cons, List.not_mem_nil, or_false, not_or]
    exact ⟨other rfl member, other rfl member, other rfl member, other rfl member⟩

/-- What is read as a host is settled. -/
theorem asWritten_isSettled {text host : List Char} (found : asWritten text = .ok host) :
    IsSettled host := by
  unfold asWritten at found
  split at found
  · obtain ⟨groups, address, rfl⟩ := bracketed_eq_ok found
    exact isSettled_address address
  · split at found
    · cases found
    · next allowed =>
        cases found
        exact isSettled_escaped (by simpa using allowed)

end Host

/-! ### Authorities -/

theorem splitUser_of_not_mem {text : List Char} (absent : '@' ∉ text) :
    splitUser text = (none, text) := by
  have all : ∀ character ∈ text.reverse, decide (character ≠ '@') = true := by
    intro character member
    rw [decide_eq_true_eq]
    rintro rfl
    exact absent (List.mem_reverse.mp member)
  rw [splitUser, List.takeWhile_eq_self_iff.mpr all, List.reverse_reverse]
  simp

/-- The digits of a port are read as the port. -/
theorem splitPort_toDigits (port : UInt16) :
    splitPort (':' :: Nat.toDigits 10 port.toNat) = .ok (some port, []) := by
  have digits : ∀ digit ∈ Nat.toDigits 10 port.toNat, digit.isDigit = true :=
    fun digit member => Nat.isDigit_of_mem_toDigits (by decide) (by decide) member
  have value : boundedNumber? 65535 (Nat.toDigits 10 port.toNat) = some port.toNat := by
    have bound : port.toNat < 65536 := port.toNat_lt
    rw [boundedNumber?, Ipv4.ofDigits_toDigits (by decide) (by decide), if_pos (by omega)]
  have filled : (Nat.toDigits 10 port.toNat).isEmpty = false :=
    List.isEmpty_eq_false_iff.mpr Nat.toDigits_ne_nil
  simp [splitPort, List.takeWhile_eq_self_iff.mpr digits, List.dropWhile_eq_nil_iff.mpr digits,
    value, filled]

/-- A host that is read from an authority is settled and not empty. -/
theorem parseAuthority_isSettled {text : List Char} {isLast : Bool} {found : Authority}
    {name : String} (read : parseAuthority .plain text isLast = .ok found)
    (host : found.host = some name) :
    ∃ chars, Host.IsSettled chars ∧ chars ≠ [] ∧ name = String.ofList chars := by
  unfold parseAuthority at read
  simp only [bind, Except.bind, pure, Except.pure, throw, throwThe, MonadExceptOf.throw,
    if_true] at read
  cases written : Host.asWritten (splitHost false (splitUser text).2).1 with
  | error fault =>
      simp only [written] at read
      split_ifs at read
  | ok chars =>
      cases ported : splitPort (splitHost false (splitUser text).2).2 with
      | error fault =>
          simp only [written, ported] at read
          split_ifs at read
      | ok port =>
          simp only [written, ported] at read
          split_ifs at read with _ _ _ _ filled
          · cases read
            cases host
          · cases read
            cases host
            exact ⟨chars, Host.asWritten_isSettled written, by simpa using filled, rfl⟩

/-- Nothing in a settled host with its port ends it or is left out. -/
theorem Host.IsSettled.safe_port {host : List Char} (settled : IsSettled host) (port : UInt16)
    {character : Char} (member : character ∈ host ++ ':' :: Nat.toDigits 10 port.toNat) :
    ' ' < character ∧ character ∉ ['/', '?', '#', '@'] := by
  rcases List.mem_append.mp member with inside | behind
  · exact settled.safe character inside
  · rcases List.mem_cons.mp behind with rfl | digit
    · decide
    · have decimal := Nat.isDigit_of_mem_toDigits (by decide) (by decide) digit
      have least : 48 ≤ character.toNat := (Char.isDigit_iff_toNat.mp decimal).1
      refine ⟨show 32 < character.toNat by omega, fun mark => ?_⟩
      simp only [List.mem_cons, List.not_mem_nil, or_false] at mark
      rcases mark with rfl | rfl | rfl | rfl <;> cases decimal

/-- A settled host is found before its port. -/
theorem parseAuthority_settled {host : List Char} (settled : Host.IsSettled host)
    (filled : host ≠ []) (port : UInt16) (isLast : Bool) :
    parseAuthority .plain (host ++ ':' :: Nat.toDigits 10 port.toNat) isLast =
      .ok ⟨some (String.ofList host), some port, []⟩ := by
  have user : '@' ∉ host ++ ':' :: Nat.toDigits 10 port.toNat :=
    fun member => (settled.safe_port port member).2 (by decide)
  have empty : host.isEmpty = false := List.isEmpty_eq_false_iff.mpr filled
  simp [parseAuthority, splitUser_of_not_mem user, settled.whole, settled.kept, empty,
    splitPort_toDigits, bind, Except.bind, pure, Except.pure, isCredential]

end RpcDispatch.Url
