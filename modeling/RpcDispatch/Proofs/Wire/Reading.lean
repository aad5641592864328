import RpcDispatch.Wire.Frame
import Mathlib.Algebra.Ring.Nat

/-
This file says what it means to read frames to the end of a source, and shows that reading all
frames with limited fuel does that.
-/

namespace RpcDispatch.Wire

/-- Reading one frame after another from the source gives these frames and ends, cleanly or with a
fault, where the rest is left. -/
inductive Reads (limit : Nat) : Source → List Frame → Option FrameFault → Source → Prop where
  | ended {source rest : Source} (read : Frame.read limit source = (.ok none, rest)) :
      Reads limit source [] none rest
  | failed {source rest : Source} {fault : FrameFault}
      (read : Frame.read limit source = (.error fault, rest)) :
      Reads limit source [] (some fault) rest
  | frame {source next rest : Source} {frame : Frame} {frames : List Frame}
      {fault : Option FrameFault} (read : Frame.read limit source = (.ok (some frame), next))
      (reads : Reads limit next frames fault rest) :
      Reads limit source (frame :: frames) fault rest

namespace Source

theorem size_foldl (later : List Delivery) (total : Nat) :
    later.foldl (fun total delivery => total + delivery.size) total =
      total + (later.map Delivery.size).sum := by
  induction later generalizing total with
  | nil => simp
  | cons delivery later ih => simp [ih, Nat.add_assoc]

theorem size_eq (source : Source) :
    source.size = source.current.length + (source.later.map Delivery.size).sum :=
  size_foldl source.later source.current.length

/-- Taking bytes removes them from the source. -/
theorem takeLater_size (later : List Delivery) (count : Nat) (current : Bytes)
    {taken : Bytes} {rest : Source} (took : takeLater later count current = (.ok taken, rest)) :
    rest.size + count = (⟨current, later⟩ : Source).size := by
  fun_induction takeLater later count current generalizing taken rest with
  | case1 later current =>
      cases took
      rfl
  | case2 current count enough =>
      cases took
      simp only [size_eq, List.length_drop]
      omega
  | case4 current delivery later count enough =>
      cases took
      simp only [size_eq, List.length_drop]
      omega
  | case5 later count current short bytes _ source found ih =>
      cases took
      have sizes := ih found
      simp only [size_eq, List.map_cons, List.sum_cons, Delivery.size] at sizes ⊢
      omega
  | case7 later count current short _ source found ih =>
      cases took
      have sizes := ih found
      simp only [size_eq, List.map_cons, List.sum_cons, Delivery.size, List.length_nil] at sizes ⊢
      omega
  | case3 | case6 | case8 | case9 | case10 => cases took

theorem take_size {source rest : Source} {count : Nat} {taken : Bytes}
    (took : source.take count = (.ok taken, rest)) : rest.size + count = source.size :=
  takeLater_size source.later count source.current took

end Source

theorem Frame.readPayload_size {limit : Nat} {tag : UInt8} {length : Bytes} {source rest : Source}
    {frame : Frame} (read : readPayload limit tag length source = (.ok frame, rest)) :
    rest.size ≤ source.size := by
  unfold readPayload at read
  split at read
  · cases read
  · simp only at read
    split at read
    · cases read
    · split at read
      · next payload after taken =>
          cases read
          have sizes := Source.take_size taken
          omega
      · cases read

/-- A frame takes at least its header from the source. -/
theorem Frame.read_size {limit : Nat} {source rest : Source} {frame : Frame}
    (read : Frame.read limit source = (.ok (some frame), rest)) : rest.size < source.size := by
  unfold Frame.read at read
  split at read
  · cases read
  · next tag header tagged =>
      have first := Source.take_size tagged
      split at read
      · cases read
      · next length payload measured =>
          have second := Source.take_size measured
          cases found : readPayload limit tag length payload with
          | mk result after =>
              simp only [found] at read
              cases result with
              | error fault => cases read
              | ok frame =>
                  cases read
                  have third := readPayload_size found
                  omega
  · cases read

/-- Enough fuel reads to the end. -/
theorem Frame.readMany_reads (limit fuel : Nat) (reversed : List Frame) (source : Source)
    (enough : source.size < fuel) :
    ∃ frames, (readMany limit fuel reversed source).frames = reversed.reverse ++ frames ∧
      Reads limit source frames (readMany limit fuel reversed source).fault
        (readMany limit fuel reversed source).rest := by
  induction fuel generalizing reversed source with
  | zero => exact absurd enough (Nat.not_lt_zero _)
  | succ fuel ih =>
      rw [readMany]
      cases found : read limit source with
      | mk result rest =>
          match result with
          | .error fault => exact ⟨[], by simp, .failed found⟩
          | .ok none => exact ⟨[], by simp, .ended found⟩
          | .ok (some frame) =>
              have shorter := Frame.read_size found
              obtain ⟨frames, same, reads⟩ := ih (frame :: reversed) rest (by omega)
              exact ⟨frame :: frames, by simpa using same, .frame found reads⟩

/-- Reading all frames reads the source to its end. -/
theorem Frame.readAll_reads (limit : Nat) (source : Source) :
    Reads limit source (readAll limit source).frames (readAll limit source).fault
      (readAll limit source).rest := by
  obtain ⟨frames, same, reads⟩ := readMany_reads limit (source.size + 1) [] source (by simp)
  rw [List.reverse_nil, List.nil_append] at same
  exact same ▸ reads

end RpcDispatch.Wire
