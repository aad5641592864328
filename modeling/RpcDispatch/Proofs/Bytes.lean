import RpcDispatch.Bytes
import Mathlib.Algebra.Ring.Nat

/-
This file says that a number and its little-endian bytes determine each other, as long as the
number fits.
-/

namespace RpcDispatch.Bytes

@[simp] theorem length_littleEndian (count value : Nat) :
    (littleEndian count value).length = count := by
  induction count generalizing value with
  | zero => rfl
  | succ count ih => simp [littleEndian, ih]

/-- A number that fits into so many bytes is read back from them. -/
theorem ofLittleEndian_littleEndian {count value : Nat} (fits : value < 256 ^ count) :
    ofLittleEndian (littleEndian count value) = value := by
  induction count generalizing value with
  | zero =>
      have zero : value = 0 := by simpa using fits
      subst zero
      rfl
  | succ count ih =>
      have small : value / 256 < 256 ^ count := by
        apply (Nat.div_lt_iff_lt_mul (by decide : 0 < 256)).mpr
        rwa [← Nat.pow_succ]
      have byte : (value % 256).toUInt8.toNat = value % 256 :=
        Nat.mod_eq_of_lt (Nat.mod_lt value (by decide))
      rw [littleEndian, ofLittleEndian, ih small, byte]
      omega

/-- So many bytes hold no greater number. -/
theorem ofLittleEndian_lt (bytes : Bytes) : ofLittleEndian bytes < 256 ^ bytes.length := by
  induction bytes with
  | nil => decide
  | cons byte bytes ih =>
      have bound := byte.toNat_lt
      rw [ofLittleEndian, List.length_cons, Nat.pow_succ]
      omega

/-- Bytes are the form of the number that is read from them. -/
theorem littleEndian_ofLittleEndian (bytes : Bytes) :
    littleEndian bytes.length (ofLittleEndian bytes) = bytes := by
  induction bytes with
  | nil => rfl
  | cons byte bytes ih =>
      have bound := byte.toNat_lt
      have first : (byte.toNat + 256 * ofLittleEndian bytes) % 256 = byte.toNat := by omega
      have later : (byte.toNat + 256 * ofLittleEndian bytes) / 256 = ofLittleEndian bytes := by
        omega
      rw [ofLittleEndian, List.length_cons, littleEndian, first, later, ih]
      simp

/-! ### Length fields -/

@[simp] theorem length_lengthField (length : Nat) : (lengthField length).length = 4 :=
  length_littleEndian 4 length

/-- A length below the bound is read back from its field. -/
theorem ofLittleEndian_lengthField {length : Nat} (fits : length < lengthBound) :
    ofLittleEndian (lengthField length) = length :=
  ofLittleEndian_littleEndian fits

/-- Four bytes are the field of the length that is read from them. -/
theorem lengthField_ofLittleEndian {bytes : Bytes} (four : bytes.length = 4) :
    lengthField (ofLittleEndian bytes) = bytes := by
  have same := littleEndian_ofLittleEndian bytes
  rwa [four] at same

/-- No field of four bytes holds a length beyond the bound. -/
theorem ofLittleEndian_lt_lengthBound {bytes : Bytes} (four : bytes.length = 4) :
    ofLittleEndian bytes < lengthBound := by
  have bound := ofLittleEndian_lt bytes
  rwa [four] at bound

end RpcDispatch.Bytes
