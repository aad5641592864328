import RpcDispatch.Proofs.Url.Host
import RpcDispatch.Proofs.Url.Path

/-
This file says how a text is cleaned and cut into the parts of a URL, for schemes that have no rules
of their own.
-/

namespace RpcDispatch.Url

/-! ### Clean texts -/

/-- What remains of the end of a text. -/
def cleanEnd (text : List Char) : List Char :=
  (text.reverse.dropWhile (· ≤ ' ')).reverse.filter fun c => c ≠ '\t' && c ≠ '\n' && c ≠ '\r'

/-- Nothing is left out of a beginning without blanks and controls. -/
theorem clean_append {front : List Char} (filled : front ≠ [])
    (visible : ∀ character ∈ front, ' ' < character) (rest : List Char) :
    clean (front ++ rest) = front ++ cleanEnd rest := by
  have inside : ∀ character ∈ front, decide (character ≤ ' ') = false := by
    intro character member
    rw [decide_eq_false_iff_not, Char.not_le]
    exact visible character member
  have kept : ∀ character ∈ front,
      (character ≠ '\t' && character ≠ '\n' && character ≠ '\r') = true := by
    intro character member
    have high := visible character member
    simp only [Bool.and_eq_true, decide_eq_true_eq]
    refine ⟨⟨?_, ?_⟩, ?_⟩
    all_goals
      rintro rfl
      exact absurd high (by decide)
  rw [clean, Text.trimWhere_append filled inside, List.filter_append,
    List.filter_eq_self.mpr kept]
  rfl

/-- Visible characters in front are kept. -/
theorem cleanEnd_append {front : List Char} (visible : ∀ character ∈ front, ' ' < character)
    (rest : List Char) : cleanEnd (front ++ rest) = front ++ cleanEnd rest := by
  -- Behind a visible character both sides are the same clean text.
  have whole : clean ('a' :: front ++ rest) = 'a' :: front ++ cleanEnd rest :=
    clean_append (List.cons_ne_nil 'a' front) (List.forall_mem_cons.mpr ⟨by decide, visible⟩) rest
  have first : clean (['a'] ++ (front ++ rest)) = ['a'] ++ cleanEnd (front ++ rest) :=
    clean_append (List.cons_ne_nil 'a' []) (List.forall_mem_singleton.mpr (by decide))
      (front ++ rest)
  exact List.append_cancel_left (first.symm.trans whole)

/-- A visible text is kept as it is. -/
theorem cleanEnd_of_visible {text : List Char} (visible : ∀ character ∈ text, ' ' < character) :
    cleanEnd text = text := by
  have whole := cleanEnd_append visible []
  rwa [List.append_nil, show cleanEnd [] = [] from rfl, List.append_nil] at whole

/-- A query or fragment starts where it is found. -/
theorem withoutQuery_of_safe {text : List Char}
    (safe : ∀ character ∈ text, isUnsafeInPath character = false) : withoutQuery text = text := by
  rw [withoutQuery, List.takeWhile_eq_self_iff]
  intro character member
  have plain := safe character member
  rw [Bool.and_eq_true, decide_eq_true_eq, decide_eq_true_eq]
  constructor
  all_goals
    rintro rfl
    cases plain

/-! ### URLs with a plain scheme -/

variable {text : String} {scheme : String} {rest : List Char} {url : Url}

/-- A URL with an authority has its host and port, and a path behind it. -/
theorem parseLocated_eq_ok {kind : SchemeKind}
    (found : parseLocated scheme kind rest = .ok url) :
    ∃ authority : Authority,
      (if kind = .file then parseFileHost (rest.takeWhile (!endsAuthority kind ·))
        else parseAuthority kind (rest.takeWhile (!endsAuthority kind ·))
          (rest.dropWhile (!endsAuthority kind ·)).isEmpty) = .ok authority ∧
      url = ⟨scheme, authority.host, authority.port, String.ofList (Path.afterHost
        (withoutQuery (authority.rest ++ rest.dropWhile (!endsAuthority kind ·))))⟩ := by
  have parsed {outcome : Except Fault Authority}
      (same : (outcome >>= fun authority => pure ⟨scheme, authority.host, authority.port,
        String.ofList (Path.afterHost (withoutQuery (authority.rest ++
          rest.dropWhile (!endsAuthority kind ·))))⟩) = .ok url) :
      ∃ authority, outcome = .ok authority ∧
        url = ⟨scheme, authority.host, authority.port, String.ofList (Path.afterHost
          (withoutQuery (authority.rest ++ rest.dropWhile (!endsAuthority kind ·))))⟩ := by
    cases outcome with
    | error fault => cases same
    | ok authority =>
        cases same
        exact ⟨authority, rfl, rfl⟩
  unfold parseLocated at found
  dsimp only at found
  split at found
  · next file =>
      rw [if_pos file]
      exact parsed found
  · next located =>
      rw [if_neg located]
      exact parsed found

/-- The scheme of a URL stands before the first colon. -/
theorem parse_scheme (found : parse text = .ok url) :
    ∃ rest, splitScheme? (clean text.toList) = some (url.scheme.toList, rest) := by
  unfold parse at found
  split at found
  · cases found
  · next scheme rest cut =>
      have same : url.scheme = String.ofList scheme := by
        dsimp only at found
        split at found
        · obtain ⟨_, _, rfl⟩ := parseLocated_eq_ok found
          rfl
        · split at found
          · obtain ⟨_, _, rfl⟩ := parseLocated_eq_ok found
            rfl
          · cases found
            rfl
        · obtain ⟨_, _, rfl⟩ := parseLocated_eq_ok found
          rfl
        · cases found
          rfl
      exact ⟨rest, by rw [cut, same, String.toList_ofList]⟩

/-- A text with two slashes behind a plain scheme has a host and a path. -/
theorem parse_located
    (cut : splitScheme? (clean text.toList) = some (scheme.toList, '/' :: '/' :: rest))
    (plain : SchemeKind.ofScheme scheme = .plain) :
    parse text = parseLocated scheme .plain rest := by
  simp only [parse, cut, String.ofList_toList, plain]

/-- A text without two slashes behind a plain scheme has no host. -/
theorem parse_unlocated (cut : splitScheme? (clean text.toList) = some (scheme.toList, rest))
    (plain : SchemeKind.ofScheme scheme = .plain)
    (single : ∀ located, rest ≠ '/' :: '/' :: located) :
    parse text = .ok (parseUnlocated scheme rest) := by
  simp only [parse, cut, String.ofList_toList, plain]
  split
  · next internet => cases internet
  · next file => cases file
  · next located _ => exact absurd rfl (single located)
  · rfl

/-! ### Hosts -/

/-- The host of a URL is settled and not empty. -/
theorem parse_isSettled {name : String} (found : parse text = .ok url)
    (plain : SchemeKind.ofScheme url.scheme = .plain) (hosted : url.host = some name) :
    Host.IsSettled name.toList ∧ name.toList ≠ [] := by
  obtain ⟨rest, cut⟩ := parse_scheme found
  by_cases slashes : ∃ located, rest = '/' :: '/' :: located
  · obtain ⟨located, rfl⟩ := slashes
    rw [parse_located cut plain] at found
    obtain ⟨authority, read, same⟩ := parseLocated_eq_ok found
    rw [if_neg (by decide)] at read
    rw [same] at hosted
    obtain ⟨chars, settled, filled, rfl⟩ := parseAuthority_isSettled read hosted
    rw [String.toList_ofList]
    exact ⟨settled, filled⟩
  · rw [parse_unlocated cut plain fun located same => slashes ⟨located, same⟩] at found
    have same : parseUnlocated url.scheme rest = url := Except.ok.inj found
    rw [← same] at hosted
    cases hosted

/-- A settled host and a port are a whole authority. -/
theorem parseLocated_settled {host : List Char} (settled : Host.IsSettled host)
    (filled : host ≠ []) (port : UInt16) (scheme : String) :
    parseLocated scheme .plain (host ++ ':' :: Nat.toDigits 10 port.toNat) =
      .ok ⟨scheme, some (String.ofList host), some port, ""⟩ := by
  have whole : ∀ character ∈ host ++ ':' :: Nat.toDigits 10 port.toNat,
      (!endsAuthority .plain character) = true := by
    intro character member
    have apart := (settled.safe_port port member).2
    simp only [List.mem_cons, List.not_mem_nil, or_false, not_or] at apart
    simp [endsAuthority, apart]
  unfold parseLocated
  dsimp only
  rw [List.takeWhile_eq_self_iff.mpr whole, List.dropWhile_eq_nil_iff.mpr whole,
    if_neg (by decide), parseAuthority_settled settled filled]
  rfl

/-! ### Paths -/

/-- What follows a host is nothing or a resolved path. -/
theorem afterHost_cases (text : List Char) :
    Path.afterHost text = [] ∨ Path.IsResolved (Path.afterHost text) := by
  unfold Path.afterHost
  split
  · exact .inl rfl
  · exact .inr (Path.belowRoot_isResolved _)
  · exact .inr (Path.belowRoot_isResolved _)

/-- A slash before the query is kept. -/
theorem withoutQuery_slash (text : List Char) :
    withoutQuery ('/' :: text) = '/' :: withoutQuery text := by
  simp [withoutQuery]

/-- A path without an authority is resolved when a slash comes first, and only then. -/
theorem parseUnlocated_isResolved_iff (scheme : String) (text : List Char) :
    Path.IsResolved (parseUnlocated scheme text).path.toList ↔ ∃ rest, text = '/' :: rest := by
  unfold parseUnlocated
  dsimp only
  rw [String.toList_ofList]
  constructor
  · intro resolved
    have slash : ∃ rest, withoutQuery text = '/' :: rest := by
      split at resolved
      · next rest same => exact ⟨rest, same⟩
      · obtain ⟨rest, same⟩ := resolved.rooted
        exact escapeWhere_eq_cons not_isEscapeChar_slash same
    obtain ⟨rest, same⟩ := slash
    cases text with
    | nil => cases same
    | cons first later =>
        rw [withoutQuery, List.takeWhile_cons] at same
        split at same
        · cases same
          exact ⟨later, rfl⟩
        · cases same
  · rintro ⟨rest, rfl⟩
    rw [withoutQuery_slash]
    exact Path.belowRoot_isResolved _

/-- What follows an authority that ends at once is a path. -/
theorem parseLocated_slash (scheme : String) (text : List Char) :
    parseLocated scheme .plain ('/' :: text) =
      .ok ⟨scheme, none, none, String.ofList (Path.belowRoot (withoutQuery text))⟩ := by
  have found : parseAuthority .plain [] false = .ok ⟨none, none, []⟩ := rfl
  simp [parseLocated, endsAuthority, found, withoutQuery_slash, Path.afterHost, bind, Except.bind,
    pure, Except.pure]

/-- The path behind an authority is empty or resolved. -/
theorem parseLocated_path {kind : SchemeKind} (found : parseLocated scheme kind rest = .ok url) :
    url.path.toList = [] ∨ Path.IsResolved url.path.toList := by
  obtain ⟨authority, _, rfl⟩ := parseLocated_eq_ok found
  rw [String.toList_ofList]
  exact afterHost_cases _

/-- The path of a URL is resolved when a slash follows the colon, and only then. -/
theorem parse_isResolved_iff (found : parse text = .ok url)
    (plain : SchemeKind.ofScheme url.scheme = .plain) (filled : url.path.toList ≠ []) :
    Path.IsResolved url.path.toList ↔
      ∃ rest, splitScheme? (clean text.toList) = some (url.scheme.toList, '/' :: rest) := by
  obtain ⟨rest, cut⟩ := parse_scheme found
  have slash : (∃ later, splitScheme? (clean text.toList) =
      some (url.scheme.toList, '/' :: later)) ↔ ∃ later, rest = '/' :: later := by
    simp [cut]
  rw [slash]
  by_cases slashes : ∃ located, rest = '/' :: '/' :: located
  · obtain ⟨located, rfl⟩ := slashes
    rw [parse_located cut plain] at found
    exact iff_of_true ((parseLocated_path found).resolve_left filled) ⟨_, rfl⟩
  · rw [parse_unlocated cut plain fun located same => slashes ⟨located, same⟩] at found
    have same : parseUnlocated url.scheme rest = url := Except.ok.inj found
    have resolved := parseUnlocated_isResolved_iff url.scheme rest
    rwa [same] at resolved

end RpcDispatch.Url
