import RpcDispatch.Proofs.Bytes
import RpcDispatch.Rpc.Payload

/-
This file says which payloads split into JSON text and a binary tail, and that they split in one
way only.
-/

namespace RpcDispatch.Rpc

/-- The payloads with the given parts. -/
inductive Framed : Framing → (payload json tail : Bytes) → Prop where
  | text (json : Bytes) : Framed .text json json []
  | binary {json : Bytes} (tail : Bytes) (fits : json.length < Bytes.lengthBound) :
      Framed .binary (Parts.join ⟨json, tail⟩) json tail

theorem splitBinary_join {json : Bytes} (tail : Bytes) (fits : json.length < Bytes.lengthBound) :
    splitBinary (Parts.join ⟨json, tail⟩) = .ok ⟨json, tail⟩ := by
  have four := Bytes.length_lengthField json.length
  have header : (Parts.join ⟨json, tail⟩).take 4 = Bytes.lengthField json.length := by
    rw [Parts.join, List.append_assoc, List.take_left' four]
  have rest : (Parts.join ⟨json, tail⟩).drop 4 = json ++ tail := by
    rw [Parts.join, List.append_assoc, List.drop_left' four]
  have long : ¬(Parts.join ⟨json, tail⟩).length < 4 := by
    simp only [Parts.join, List.length_append]
    omega
  unfold splitBinary
  rw [if_neg long, header, rest, Bytes.ofLittleEndian_lengthField fits]
  simp

theorem eq_join_of_splitBinary {payload : Bytes} {parts : Parts}
    (split : splitBinary payload = .ok parts) :
    payload = parts.join ∧ parts.json.length < Bytes.lengthBound := by
  unfold splitBinary at split
  split at split
  · cases split
  · next enough =>
      have four : (payload.take 4).length = 4 := List.length_take_of_le (Nat.not_lt.mp enough)
      simp only at split
      split at split
      · next within =>
          cases split
          have size : ((payload.drop 4).take (Bytes.ofLittleEndian (payload.take 4))).length =
              Bytes.ofLittleEndian (payload.take 4) := List.length_take_of_le within
          constructor
          · rw [Parts.join, size, Bytes.lengthField_ofLittleEndian four, List.append_assoc,
              List.take_append_drop, List.take_append_drop]
          · rw [size]
            exact Bytes.ofLittleEndian_lt_lengthBound four
      · cases split

/-- A payload splits exactly into the parts that it was made of. -/
theorem split_eq_ok {payload : Bytes} {framing : Framing} {parts : Parts} :
    split payload framing = .ok parts ↔ Framed framing payload parts.json parts.tail := by
  cases framing with
  | text =>
      constructor
      · intro same
        cases same
        exact .text payload
      · intro framed
        obtain ⟨json, tail⟩ := parts
        cases framed
        rfl
  | binary =>
      constructor
      · intro same
        obtain ⟨rfl, fits⟩ := eq_join_of_splitBinary same
        exact .binary parts.tail fits
      · intro framed
        obtain ⟨json, tail⟩ := parts
        cases framed with
        | binary tail fits => exact splitBinary_join tail fits

end RpcDispatch.Rpc
