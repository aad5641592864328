import RpcDispatch.Config.Arguments
import RpcDispatch.Proofs.Endpoint.RoundTrip

/-
This file says which paths of files survive as the text of an endpoint.  The standard socket is one
of them or not: a configuration gets it from its text only.
-/

namespace RpcDispatch

/-! ### Paths in normal form -/

namespace Files.Path

/-- The name of a file.  Dots that stand for a place are none. -/
structure IsName (segment : List Char) : Prop where
  filled : segment ≠ []
  whole : '/' ∉ segment
  noNull : '\x00' ∉ segment
  single : segment ≠ ['.']
  double : segment ≠ ['.', '.']

instance (segment : List Char) : Decidable (IsName segment) :=
  decidable_of_iff (segment ≠ [] ∧ '/' ∉ segment ∧ '\x00' ∉ segment ∧ segment ≠ ['.'] ∧
      segment ≠ ['.', '.'])
    ⟨fun ⟨filled, whole, noNull, single, double⟩ => ⟨filled, whole, noNull, single, double⟩,
      fun name => ⟨name.filled, name.whole, name.noNull, name.single, name.double⟩⟩

/-- A path from the root whose segments are names. -/
def IsNormal (path : List Char) : Prop :=
  ∃ names, (∀ name ∈ names, IsName name) ∧ path = '/' :: Text.joinAt '/' names

theorem IsNormal.rooted {path : List Char} (normal : IsNormal path) :
    ∃ rest, path = '/' :: rest := by
  obtain ⟨names, _, same⟩ := normal
  exact ⟨_, same⟩

end Files.Path

namespace Url.Path

/-- The characters that stand for themselves in the path of a URL. -/
def IsWritable (character : Char) : Prop :=
  ' ' < character ∧ character ≤ '~' ∧
    character ∉ ['"', '#', '<', '>', '?', '\x60', '{', '}']

instance (character : Char) : Decidable (IsWritable character) :=
  inferInstanceAs (Decidable (_ ∧ _ ∧ _))

/-- The names of files that a URL takes for one dot or two. -/
def escapedDots : List (List Char) :=
  ["%2e", "%2E", ".%2e", ".%2E", "%2e.", "%2E.", "%2e%2e", "%2e%2E", "%2E%2e", "%2E%2E"].map
    String.toList

/-- A path that stands for itself in a URL. -/
structure IsLiteral (path : List Char) : Prop where
  writable : ∀ character ∈ path, IsWritable character
  names : ∀ segment ∈ Text.splitAt '/' path, segment ∉ escapedDots

-- The characters of the path are looked at one by one, and not all characters there are.
instance (path : List Char) : Decidable (IsLiteral path) :=
  decidable_of_iff (path.all (IsWritable ·) = true ∧
      (Text.splitAt '/' path).all (· ∉ escapedDots) = true)
    ⟨fun ⟨writable, names⟩ => ⟨by simpa using writable, by simpa using names⟩,
      fun literal => ⟨by simpa using literal.writable, by simpa using literal.names⟩⟩

theorem isWritable_iff {character : Char} :
    IsWritable character ↔ isUnsafeInPath character = false := by
  constructor
  · rintro ⟨visible, ascii, apart⟩
    have safe : isUnsafe character = false := by
      rw [isUnsafe, Bool.or_eq_false_iff, decide_eq_false_iff_not, decide_eq_false_iff_not]
      exact ⟨fun control => Char.lt_asymm visible control, Char.not_lt.mpr ascii⟩
    have noBlank : character ≠ ' ' := by
      rintro rfl
      exact absurd visible (by decide)
    simp_all [isUnsafeInPath]
  · intro safe
    have parts := safe
    rw [isUnsafeInPath, Bool.or_eq_false_iff, isUnsafe, Bool.or_eq_false_iff,
      decide_eq_false_iff_not, decide_eq_false_iff_not] at parts
    refine ⟨visible_of_safe_path safe, Char.not_lt.mp parts.1.2, ?_⟩
    simp_all

theorem isDot_cases {segment : List Char} (dot : isDot segment = true) :
    segment = ['.'] ∨ segment = "%2e".toList ∨ segment = "%2E".toList := by
  simpa [isDot, or_assoc] using dot

/-- What a URL takes for dots is such dots or an escaped form of them. -/
theorem isDoubleDot_cases {segment : List Char} (dots : isDoubleDot segment = true) :
    segment = ['.', '.'] ∨ segment ∈ escapedDots := by
  unfold isDoubleDot at dots
  split at dots
  · rcases isDot_cases dots with rfl | rfl | rfl <;> decide
  · rcases isDot_cases dots with rfl | rfl | rfl <;> decide
  · rcases isDot_cases dots with rfl | rfl | rfl <;> decide
  · cases dots

theorem dots_of_mem_escapedDots : ∀ segment ∈ escapedDots,
    isDot segment = true ∨ isDoubleDot segment = true := by
  decide

/-- The segments of a path from the root come after an empty one. -/
theorem splitAt_rooted {segments : List (List Char)}
    (whole : ∀ segment ∈ segments, '/' ∉ segment) (filled : segments ≠ []) :
    Text.splitAt '/' ('/' :: Text.joinAt '/' segments) = [] :: segments := by
  rw [Text.splitAt, if_pos rfl, Text.splitAt_joinAt whole filled]

/-- A path in normal form is resolved as a URL when it stands for itself, and only then. -/
theorem isResolved_iff_isLiteral {path : List Char} (normal : Files.Path.IsNormal path) :
    IsResolved path ↔ IsLiteral path := by
  constructor
  · intro resolved
    refine ⟨fun character member => isWritable_iff.mpr (resolved.safe member), ?_⟩
    obtain ⟨segments, filled, plain, rfl⟩ := resolved
    rw [splitAt_rooted (fun segment member => (plain segment member).whole) filled]
    intro segment member escaped
    have kept : IsResolvedSegment segment := by
      rcases List.mem_cons.mp member with rfl | member
      · exact isResolvedSegment_nil
      · exact plain segment member
    rcases dots_of_mem_escapedDots segment escaped with dot | dots
    · exact absurd dot (by simp [kept.single])
    · exact absurd dots (by simp [kept.double])
  · rintro ⟨writable, literal⟩
    obtain ⟨names, plain, rfl⟩ := normal
    by_cases none : names = []
    · subst none
      exact ⟨[[]], by decide, List.forall_mem_singleton.mpr isResolvedSegment_nil, rfl⟩
    rw [splitAt_rooted (fun name member => (plain name member).whole) none] at literal
    refine ⟨names, none, fun name member => ?_, rfl⟩
    have named := plain name member
    have other : name ∉ escapedDots := literal name (.tail _ member)
    refine ⟨named.whole, fun character inside => ?_, ?_, ?_⟩
    · exact isWritable_iff.mp (writable character (.tail _ (Text.mem_joinAt_of_mem member inside)))
    · apply Bool.eq_false_iff.mpr
      intro dot
      rcases isDot_cases dot with same | rfl | rfl
      · exact named.single same
      · exact other (by decide)
      · exact other (by decide)
    · apply Bool.eq_false_iff.mpr
      intro dots
      exact (isDoubleDot_cases dots).elim named.double other

end Url.Path

/-! ### Loading -/

namespace Config

variable {arguments : List Bytes} {environment : Environment} {user : String} {draft : Draft}

/-- A configuration without a socket of its own gets the standard one as its text is read. -/
theorem complete_of_unset (unset : draft.daemonSocket = none) {socket : Endpoint}
    (read : Endpoint.parse (standardSocket environment user).display = .ok socket) :
    ∃ config, complete environment user draft = .ok config ∧ config.daemonSocket = socket := by
  unfold complete
  simp only [unset, standard, read]
  exact ⟨_, rfl, rfl⟩

/-- An environment without variables for settings changes nothing. -/
theorem readEnvironment_of_unset
    (unset : ∀ setting ∈ Setting.all, environment.lookup setting.environmentName = none) :
    readEnvironment environment draft = .ok draft := by
  unfold readEnvironment
  generalize Setting.all = settings at unset
  induction settings with
  | nil => rfl
  | cons setting settings ih =>
      obtain ⟨first, later⟩ := List.forall_mem_cons.mp unset
      rw [List.foldlM_cons, first]
      exact ih later

theorem load_of_complete {given : Draft} {config : Config}
    (first : readArguments {} none arguments = .ok given)
    (second : readEnvironment environment given = .ok draft)
    (completed : complete environment user draft = .ok config)
    (valid : config.validate = .ok ()) : load arguments environment user = .ok config := by
  unfold load
  rw [first]
  simp only [bind, Except.bind, second, completed, valid]

/-- A path in normal form is always displayed as an endpoint, and as its own exactly when it stands
for itself in a URL.  A configuration to which nothing gives a socket has the standard one exactly
when its path does. -/
theorem unix_display_round_trip_iff {path : String} (normal : Files.Path.IsNormal path.toList) :
    (∃ read, Endpoint.parse (Endpoint.unix path).display = .ok (.unix read)) ∧
    (Endpoint.parse (Endpoint.unix path).display = .ok (.unix path) ↔
      Url.Path.IsLiteral path.toList) ∧
    ∀ arguments environment user given draft,
      readArguments {} none arguments = .ok given → readEnvironment environment given = .ok draft →
      draft.daemonSocket = none → standardSocket environment user = .unix path →
      ∃ config, complete environment user draft = .ok config ∧
        (config.daemonSocket = .unix path ↔ Url.Path.IsLiteral path.toList) ∧
        (config.validate = .ok () → load arguments environment user = .ok config) := by
  obtain ⟨rest, rooted⟩ := normal.rooted
  have read := Endpoint.parse_display_rooted rooted
  have same : Endpoint.parse (Endpoint.unix path).display = .ok (.unix path) ↔
      Url.Path.IsLiteral path.toList :=
    (Endpoint.parse_display_unix_iff path).trans (Url.Path.isResolved_iff_isLiteral normal)
  refine ⟨⟨_, read⟩, same, ?_⟩
  intro arguments environment user given draft first second unset standard
  rw [← standard] at read
  obtain ⟨config, completed, socket⟩ := complete_of_unset unset read
  refine ⟨config, completed, ?_, load_of_complete first second completed⟩
  rw [socket, ← same, ← standard, read, Except.ok.injEq]

/-- The environment of the user whose directory has the given path. -/
def runtimeEnvironment (directory : String) : Environment :=
  [("XDG_RUNTIME_DIR", Text.Utf8.encode directory)]

/-- Percent signs and bars stand for themselves where they make no dots. -/
theorem unix_display_round_trip_iff_percent :
    Files.Path.IsNormal "/run/50%|^/brayns/braynsd.sock".toList ∧
      Endpoint.parse (Endpoint.unix "/run/50%|^/brayns/braynsd.sock").display =
        .ok (.unix "/run/50%|^/brayns/braynsd.sock") ∧
      ∃ config, load [] (runtimeEnvironment "/run/50%|^") "0" = .ok config ∧
        config.daemonSocket = .unix "/run/50%|^/brayns/braynsd.sock" := by
  have normal : Files.Path.IsNormal "/run/50%|^/brayns/braynsd.sock".toList :=
    ⟨["run", "50%|^", "brayns", "braynsd.sock"].map String.toList, by decide, by decide⟩
  have literal : Url.Path.IsLiteral "/run/50%|^/brayns/braynsd.sock".toList := by decide
  obtain ⟨_, same, loads⟩ := unix_display_round_trip_iff normal
  obtain ⟨config, completed, socket, loaded⟩ := loads [] (runtimeEnvironment "/run/50%|^") "0" {} {}
    rfl (readEnvironment_of_unset (by decide +kernel)) rfl (by decide +kernel)
  have valid : config.validate = .ok () := by
    have known : complete (runtimeEnvironment "/run/50%|^") "0" {} =
        .ok (standard (runtimeEnvironment "/run/50%|^") "0") := by decide +kernel
    rw [completed] at known
    cases known
    decide +kernel
  exact ⟨normal, same.mpr literal, config, loaded valid, socket.mpr literal⟩

/-- A blank in the path of the user's directory is escaped in the socket that is loaded. -/
theorem unix_display_round_trip_escapes_blank :
    Files.Path.IsNormal "/run/my dir/brayns/braynsd.sock".toList ∧
      Endpoint.parse (Endpoint.unix "/run/my dir/brayns/braynsd.sock").display =
        .ok (.unix "/run/my%20dir/brayns/braynsd.sock") ∧
      standardSocket (runtimeEnvironment "/run/my dir") "0" =
        .unix "/run/my dir/brayns/braynsd.sock" ∧
      (load [] (runtimeEnvironment "/run/my dir") "0").map Config.daemonSocket =
        .ok (.unix "/run/my%20dir/brayns/braynsd.sock") ∧
      Endpoint.unix "/run/my%20dir/brayns/braynsd.sock" ≠
        .unix "/run/my dir/brayns/braynsd.sock" := by
  have normal : Files.Path.IsNormal "/run/my dir/brayns/braynsd.sock".toList :=
    ⟨["run", "my dir", "brayns", "braynsd.sock"].map String.toList, by decide, by decide⟩
  refine ⟨normal, ?_⟩
  decide +kernel

end Config

end RpcDispatch
