import RpcDispatch.Proofs.Text.Split
import RpcDispatch.Proofs.Url.Escape
import RpcDispatch.Url.Path

/-
This file says which paths are resolved: their segments hold nothing that must be escaped, and none
is a dot segment.  Resolving a path gives such a path, and resolving that changes nothing.
-/

namespace RpcDispatch.Url.Path

/-- A segment that stays as it is when its path is resolved. -/
structure IsResolvedSegment (segment : List Char) : Prop where
  whole : '/' ∉ segment
  safe : ∀ character ∈ segment, isUnsafeInPath character = false
  single : isDot segment = false
  double : isDoubleDot segment = false

/-- A path below the root whose segments stay as they are. -/
def IsResolved (path : List Char) : Prop :=
  ∃ segments, segments ≠ [] ∧ (∀ segment ∈ segments, IsResolvedSegment segment) ∧
    path = '/' :: Text.joinAt '/' segments

theorem isResolvedSegment_nil : IsResolvedSegment [] :=
  ⟨List.not_mem_nil, nofun, rfl, rfl⟩

theorem mem_above {before : List (List Char)} {segment : List Char}
    (member : segment ∈ above before) : segment ∈ before := by
  cases before with
  | nil => exact member
  | cons last before =>
      rw [above] at member
      split at member
      · exact member
      · exact .tail _ member

/-- What is kept was kept before, is an empty segment or is no dot segment. -/
theorem mem_keep {before segments : List (List Char)} {segment : List Char}
    (member : segment ∈ keep before segments) :
    segment ∈ before ∨ segment = [] ∨
      segment ∈ segments ∧ isDot segment = false ∧ isDoubleDot segment = false := by
  fun_induction keep before segments with
  | case1 before => exact .inl (List.mem_reverse.mp member)
  | case2 before last double =>
      rcases List.mem_cons.mp (List.mem_reverse.mp member) with empty | kept
      · exact .inr (.inl empty)
      · exact .inl (mem_above kept)
  | case3 before last _ single =>
      rcases List.mem_cons.mp (List.mem_reverse.mp member) with empty | kept
      · exact .inr (.inl empty)
      · exact .inl kept
  | case4 before last double single =>
      rcases List.mem_cons.mp (List.mem_reverse.mp member) with rfl | kept
      · exact .inr (.inr ⟨.head _, by simpa using single, by simpa using double⟩)
      · exact .inl kept
  | case5 before first rest _ double ih =>
      rcases ih member with kept | empty | ⟨later, plain⟩
      · exact .inl (mem_above kept)
      · exact .inr (.inl empty)
      · exact .inr (.inr ⟨.tail _ later, plain⟩)
  | case6 before first rest _ _ single ih =>
      rcases ih member with kept | empty | ⟨later, plain⟩
      · exact .inl kept
      · exact .inr (.inl empty)
      · exact .inr (.inr ⟨.tail _ later, plain⟩)
  | case7 before first rest _ double single ih =>
      rcases ih member with kept | empty | ⟨later, plain⟩
      · rcases List.mem_cons.mp kept with rfl | kept
        · exact .inr (.inr ⟨.head _, by simpa using single, by simpa using double⟩)
        · exact .inl kept
      · exact .inr (.inl empty)
      · exact .inr (.inr ⟨.tail _ later, plain⟩)

theorem keep_ne_nil (before : List (List Char)) {segments : List (List Char)}
    (filled : segments ≠ []) : keep before segments ≠ [] := by
  fun_induction keep before segments with
  | case1 before => exact absurd rfl filled
  | case2 before last => simp
  | case3 before last => simp
  | case4 before last => simp
  | case5 before first rest nonempty _ ih => exact ih (by simpa using nonempty)
  | case6 before first rest nonempty _ _ ih => exact ih (by simpa using nonempty)
  | case7 before first rest nonempty _ _ ih => exact ih (by simpa using nonempty)

/-- Segments without dot segments are all kept. -/
theorem keep_of_resolved (before : List (List Char)) {segments : List (List Char)}
    (resolved : ∀ segment ∈ segments, IsResolvedSegment segment) :
    keep before segments = before.reverse ++ segments := by
  induction segments generalizing before with
  | nil => simp [keep]
  | cons first rest ih =>
      obtain ⟨plain, later⟩ := List.forall_mem_cons.mp resolved
      cases rest with
      | nil => simp [keep, plain.single, plain.double]
      | cons next rest =>
          rw [keep, plain.double, plain.single]
          · simpa using ih (first :: before) later
          · simp

theorem belowRoot_isResolved (text : List Char) : IsResolved (belowRoot text) := by
  have filled : (Text.splitAt '/' text).map (escapeWhere isUnsafeInPath) ≠ [] := by
    simpa using Text.splitAt_ne_nil '/' text
  refine ⟨_, keep_ne_nil [] filled, fun segment member => ?_, rfl⟩
  rcases mem_keep member with none | rfl | ⟨belongs, single, double⟩
  · cases none
  · exact isResolvedSegment_nil
  · obtain ⟨part, cut, rfl⟩ := List.mem_map.mp belongs
    refine ⟨fun slash => ?_, fun _ => safe_of_mem_escapeWhere isUnsafeInPath_escape, single, double⟩
    rcases mem_escapeWhere slash with escape | ⟨inside, _⟩
    · exact not_isEscapeChar_slash escape
    · exact Text.not_mem_of_mem_splitAt cut inside

namespace IsResolved

variable {path : List Char}

/-- A resolved path is resolved to itself. -/
theorem belowRoot_eq {rest : List Char} (resolved : IsResolved ('/' :: rest)) :
    belowRoot rest = '/' :: rest := by
  obtain ⟨segments, filled, plain, same⟩ := resolved
  obtain rfl : rest = Text.joinAt '/' segments := (List.cons.inj same).2
  have escaped : segments.map (escapeWhere isUnsafeInPath) = segments := by
    have each : ∀ segment ∈ segments, escapeWhere isUnsafeInPath segment = segment :=
      fun segment member => escapeWhere_of_safe (plain segment member).safe
    rw [List.map_congr_left each, List.map_id']
  rw [belowRoot, Text.splitAt_joinAt (fun segment member => (plain segment member).whole) filled,
    escaped, keep_of_resolved [] plain]
  rfl

theorem rooted (resolved : IsResolved path) : ∃ rest, path = '/' :: rest := by
  obtain ⟨segments, _, _, same⟩ := resolved
  exact ⟨_, same⟩

/-- Nothing in a resolved path must be escaped. -/
theorem safe (resolved : IsResolved path) {character : Char} (member : character ∈ path) :
    isUnsafeInPath character = false := by
  obtain ⟨segments, _, plain, rfl⟩ := resolved
  rcases List.mem_cons.mp member with rfl | member
  · rfl
  · rcases Text.mem_joinAt member with rfl | ⟨segment, belongs, inside⟩
    · rfl
    · exact (plain segment belongs).safe character inside

end IsResolved

end RpcDispatch.Url.Path
