import RpcDispatch.Proofs.Text.Utf8
import Mathlib.Data.String.Basic

/-
This file says that texts in order have their UTF-8 forms in order, byte by byte.
-/

namespace RpcDispatch.Text.Utf8

theorem payload_eq (byte : UInt8) : payload byte = byte.toNat - 0x80 := rfl

/-- A smaller character has the smaller form, whatever comes after the two. -/
theorem Form.lt {first second : Char} {written written' : Bytes} (form : Form first written)
    (form' : Form second written') (less : first.toNat < second.toNat) (rest rest' : Bytes) :
    written ++ rest < written' ++ rest' := by
  -- the first byte tells how long a form is, and bytes of equal length are digits of the code
  cases form <;> cases form' <;>
    simp only [List.cons_append, List.nil_append, List.cons_lt_cons_iff, UInt8.lt_iff_toNat_lt,
      ← UInt8.toNat_inj, isContinuation_iff, payload_eq] at * <;>
    omega

theorem encodeChars_lt {first second : List Char} (less : first < second) :
    encodeChars first < encodeChars second := by
  induction less with
  | @nil character characters =>
      have longer := length_le_encodeChars (character :: characters)
      cases written : encodeChars (character :: characters) with
      | nil =>
          rw [written] at longer
          cases longer
      | cons byte bytes => exact List.nil_lt_cons byte bytes
  | rel less => exact (form_encodeChar _).lt (form_encodeChar _) less _ _
  | cons _ ih => exact List.append_left_lt ih

theorem encode_lt {first second : String} (less : first < second) : encode first < encode second :=
  encodeChars_lt (String.lt_iff_toList_lt.mp less)

end RpcDispatch.Text.Utf8

namespace RpcDispatch.Text

/-- The bytes of texts are in strictly increasing order. -/
def Increasing (texts : List String) : Prop :=
  (texts.map Utf8.encode).Pairwise (· < ·)

theorem increasing_of_lt {texts : List String} (sorted : texts.Pairwise (· < ·)) :
    Increasing texts :=
  List.pairwise_map.mpr (sorted.imp Utf8.encode_lt)

end RpcDispatch.Text
