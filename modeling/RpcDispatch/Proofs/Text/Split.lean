import RpcDispatch.Text.Blank
import RpcDispatch.Text.Split

/-
This file says how texts are cut at a mark and trimmed at their ends.
-/

namespace RpcDispatch.Text

theorem splitAt_eq_splitOn (mark : Char) (text : List Char) :
    splitAt mark text = text.splitOn mark := by
  induction text with
  | nil => rfl
  | cons character rest ih =>
      rw [splitAt, List.splitOn_cons_eq_if_modifyHead, ih]
      by_cases same : character = mark
      · simp [same]
      · rw [if_neg same, if_neg (by simpa using same)]
        cases cut : rest.splitOn mark with
        | nil => exact absurd cut (List.splitOn_ne_nil mark rest)
        | cons part parts => rfl

theorem splitAt_ne_nil (mark : Char) (text : List Char) : splitAt mark text ≠ [] := by
  rw [splitAt_eq_splitOn]
  exact List.splitOn_ne_nil mark text

/-- No part contains the mark. -/
theorem not_mem_of_mem_splitAt {mark : Char} {text part : List Char}
    (member : part ∈ splitAt mark text) : mark ∉ part := by
  induction text generalizing part with
  | nil =>
      rw [List.mem_singleton.mp member]
      exact List.not_mem_nil
  | cons character rest ih =>
      rw [splitAt] at member
      split at member
      · rcases List.mem_cons.mp member with rfl | member
        · exact List.not_mem_nil
        · exact ih member
      · next other =>
          cases cut : splitAt mark rest with
          | nil => exact absurd cut (splitAt_ne_nil mark rest)
          | cons first parts =>
              rw [cut] at member ih
              rcases List.mem_cons.mp member with rfl | member
              · simp [Ne.symm other, ih (.head _)]
              · exact ih (.tail _ member)

/-- Parts that do not contain the mark are found again where they were joined. -/
theorem splitAt_joinAt {mark : Char} {parts : List (List Char)}
    (apart : ∀ part ∈ parts, mark ∉ part) (nonempty : parts ≠ []) :
    splitAt mark (joinAt mark parts) = parts := by
  rw [splitAt_eq_splitOn]
  exact List.splitOn_intercalate mark apart nonempty

/-- A mark in a text ends a part, and the parts after it are those of what follows. -/
theorem splitAt_append (mark : Char) (before after : List Char) :
    splitAt mark (before ++ mark :: after) = splitAt mark before ++ splitAt mark after := by
  simp only [splitAt_eq_splitOn, List.splitOn_append_cons_self]

theorem mem_joinAt {mark character : Char} {parts : List (List Char)}
    (member : character ∈ joinAt mark parts) :
    character = mark ∨ ∃ part ∈ parts, character ∈ part := by
  induction parts with
  | nil => cases member
  | cons part parts ih =>
      cases parts with
      | nil => exact .inr ⟨part, .head _, by simpa [joinAt] using member⟩
      | cons next parts =>
          simp only [joinAt, List.intercalate_cons_cons, List.mem_append,
            List.mem_singleton] at member
          rcases member with (inside | same) | later
          · exact .inr ⟨part, .head _, inside⟩
          · exact .inl same
          · rcases ih later with same | ⟨found, belongs, inside⟩
            · exact .inl same
            · exact .inr ⟨found, .tail _ belongs, inside⟩

theorem mem_joinAt_of_mem {mark character : Char} {part : List Char} {parts : List (List Char)}
    (member : part ∈ parts) (inside : character ∈ part) : character ∈ joinAt mark parts := by
  induction parts with
  | nil => cases member
  | cons first parts ih =>
      cases parts with
      | nil =>
          rw [List.mem_singleton.mp member] at inside
          simpa [joinAt] using inside
      | cons next parts =>
          simp only [joinAt, List.intercalate_cons_cons, List.mem_append]
          rcases List.mem_cons.mp member with rfl | later
          · exact .inl (.inl inside)
          · exact .inr (ih later)

/-- Trimming leaves a beginning without edge characters as it is. -/
theorem trimWhere_append {isEdge : Char → Bool} {front : List Char} (nonempty : front ≠ [])
    (kept : ∀ character ∈ front, isEdge character = false) (rest : List Char) :
    trimWhere isEdge (front ++ rest) = front ++ (rest.reverse.dropWhile isEdge).reverse := by
  have ahead : (front ++ rest).dropWhile isEdge = front ++ rest := by
    obtain ⟨character, later, rfl⟩ := List.exists_cons_of_ne_nil nonempty
    simp [kept character (.head _)]
  have behind : front.reverse.dropWhile isEdge = front.reverse := by
    obtain ⟨character, later, same⟩ :=
      List.exists_cons_of_ne_nil (List.reverse_ne_nil_iff.mpr nonempty)
    have member : character ∈ front := List.mem_reverse.mp (same ▸ .head _)
    rw [same]
    simp [kept character member]
  rw [trimWhere, ahead, List.reverse_append, List.dropWhile_append, behind]
  split
  · next none =>
      rw [List.isEmpty_iff.mp none]
      simp
  · simp

end RpcDispatch.Text
