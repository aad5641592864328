import RpcDispatch.Endpoint.Basic
import RpcDispatch.Proofs.Url.Parsing

/-
This file says which endpoints that were read are read again from the text they are displayed as:
every host with its port, and every path that starts at the root.
-/

namespace RpcDispatch.Endpoint

/-! ### What is read and displayed -/

theorem parse_eq_ok {text : String} {endpoint : Endpoint} (read : parse text = .ok endpoint) :
    ∃ url, Url.parse text = .ok url ∧ ofUrl text url = .ok endpoint := by
  unfold parse at read
  split at read
  · cases read
  · next url found => exact ⟨url, found, read⟩

theorem ofUrl_tcp {text host : String} {port : UInt16} {url : Url}
    (named : ofUrl text url = .ok (.tcp host port)) :
    url.scheme = "tcp" ∧ url.host = some host ∧ url.port = some port := by
  unfold ofUrl at named
  split_ifs at named with _ _ scheme
  · cases named
  · split at named
    · cases named
    · cases named
    · next found ported =>
        cases named
        exact ⟨scheme, found, ported⟩

theorem ofUrl_unix {text path : String} {url : Url}
    (named : ofUrl text url = .ok (.unix path)) :
    url.scheme = "unix" ∧ url.path = path ∧ path.toList ≠ [] := by
  unfold ofUrl at named
  split_ifs at named with scheme filled
  · cases named
    exact ⟨scheme, rfl, by simpa using filled⟩
  · split at named <;> cases named

theorem display_tcp (host : String) (port : UInt16) :
    (tcp host port).display.toList =
      "tcp://".toList ++ (host.toList ++ ':' :: Nat.toDigits 10 port.toNat) := by
  simp [display, toString, Nat.repr_eq_ofList_toDigits]

theorem display_unix (path : String) :
    (unix path).display.toList = "unix://".toList ++ path.toList := by
  simp [display, toString]

/-! ### Hosts with ports -/

/-- An endpoint with a host and a port is read again from its text. -/
theorem tcp_round_trip {text host : String} {port : UInt16}
    (read : parse text = .ok (.tcp host port)) :
    parse (tcp host port).display = .ok (.tcp host port) := by
  obtain ⟨url, found, named⟩ := parse_eq_ok read
  obtain ⟨scheme, hosted, _⟩ := ofUrl_tcp named
  obtain ⟨settled, filled⟩ := Url.parse_isSettled found (by rw [scheme]; rfl) hosted
  have cut : Url.splitScheme? (Url.clean (tcp host port).display.toList) =
      some ("tcp".toList, '/' :: '/' :: (host.toList ++ ':' :: Nat.toDigits 10 port.toNat)) := by
    rw [display_tcp, Url.clean_append (by decide) (by simp),
      Url.cleanEnd_of_visible fun character member => (settled.safe_port port member).1]
    rfl
  rw [parse, Url.parse_located cut rfl, Url.parseLocated_settled settled filled,
    String.ofList_toList]
  rfl

/-- The host is rewritten once, and the port loses its zeros. -/
theorem tcp_round_trip_rewritten :
    parse " TCP://user:@[0:0:FFFF:0:0::1.2.3.4]:0080/a?b#c\n" =
        .ok (.tcp "[0:0:ffff::102:304]" 80) ∧
      parse (tcp "[0:0:ffff::102:304]" 80).display = .ok (.tcp "[0:0:ffff::102:304]" 80) := by
  have read : parse " TCP://user:@[0:0:FFFF:0:0::1.2.3.4]:0080/a?b#c\n" =
      .ok (.tcp "[0:0:ffff::102:304]" 80) := by decide +kernel
  exact ⟨read, tcp_round_trip read⟩

/-! ### Paths -/

/-- In the text of an endpoint an authority stands before the path. -/
theorem splitScheme?_display_unix (path : String) :
    Url.splitScheme? (Url.clean (unix path).display.toList) =
      some ("unix".toList, '/' :: '/' :: Url.cleanEnd path.toList) := by
  rw [display_unix, Url.clean_append (by decide) (by simp)]
  rfl

/-- A path below the root is read as it is resolved, as far as it is not taken for a query. -/
theorem parse_display_rooted {path : String} {rest : List Char}
    (rooted : path.toList = '/' :: rest) :
    parse (unix path).display =
      .ok (.unix (String.ofList (Url.Path.belowRoot (Url.withoutQuery (Url.cleanEnd rest))))) := by
  have slash : Url.cleanEnd path.toList = '/' :: Url.cleanEnd rest := by
    rw [rooted]
    exact Url.cleanEnd_append (List.forall_mem_singleton.mpr (by decide)) rest
  have cut := splitScheme?_display_unix path
  rw [slash] at cut
  rw [parse, Url.parse_located cut rfl, Url.parseLocated_slash]
  simp [ofUrl, Url.Path.belowRoot]

/-- A path is read again from the text of its endpoint when it is resolved, and only then. -/
theorem parse_display_unix_iff (path : String) :
    parse (unix path).display = .ok (.unix path) ↔ Url.Path.IsResolved path.toList := by
  constructor
  · intro read
    obtain ⟨url, found, named⟩ := parse_eq_ok read
    obtain ⟨-, rfl, filled⟩ := ofUrl_unix named
    rw [Url.parse_located (splitScheme?_display_unix url.path) rfl] at found
    exact (Url.parseLocated_path found).resolve_left filled
  · intro resolved
    obtain ⟨rest, rooted⟩ := resolved.rooted
    have safe : ∀ character ∈ rest, Url.isUnsafeInPath character = false :=
      fun character member => resolved.safe (rooted ▸ List.mem_cons_of_mem '/' member)
    have visible : ∀ character ∈ rest, ' ' < character :=
      fun character member => Url.visible_of_safe_path (safe character member)
    rw [rooted] at resolved
    rw [parse_display_rooted rooted, Url.cleanEnd_of_visible visible,
      Url.withoutQuery_of_safe safe, resolved.belowRoot_eq, ← rooted, String.ofList_toList]

/-- An endpoint with a path is read again from its text when a slash followed the colon of its
scheme, and only then. -/
theorem unix_round_trip_iff {text path : String} (read : parse text = .ok (.unix path)) :
    parse (unix path).display = .ok (.unix path) ↔
      ∃ rest, Url.splitScheme? (Url.clean text.toList) = some ("unix".toList, '/' :: rest) := by
  obtain ⟨url, found, named⟩ := parse_eq_ok read
  obtain ⟨scheme, rfl, filled⟩ := ofUrl_unix named
  rw [parse_display_unix_iff, Url.parse_isResolved_iff found (by rw [scheme]; rfl) filled, scheme]

/-- A path with an authority before it, dot segments and a query is read again. -/
theorem unix_round_trip_iff_resolved :
    parse "Unix://host:1/run/./old/%2E./a b?c" = .ok (.unix "/run/a%20b") ∧
      parse (unix "/run/a%20b").display = .ok (.unix "/run/a%20b") := by
  have read : parse "Unix://host:1/run/./old/%2E./a b?c" = .ok (.unix "/run/a%20b") := by
    decide +kernel
  have slash : Url.splitScheme? (Url.clean "Unix://host:1/run/./old/%2E./a b?c".toList) =
      some ("unix".toList, "//host:1/run/./old/%2E./a b?c".toList) := by decide +kernel
  exact ⟨read, (unix_round_trip_iff read).mpr ⟨_, slash⟩⟩

/-- The first segment of a path that does not start at the root is read as a host. -/
theorem unix_round_trip_loses_segment :
    parse "unix:tmp/a" = .ok (.unix "tmp/a") ∧
      parse (unix "tmp/a").display = .ok (.unix "/a") ∧ unix "/a" ≠ unix "tmp/a" := by
  decide +kernel

end RpcDispatch.Endpoint
