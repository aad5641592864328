/-
This file fixes the byte sequences that payloads consist of and the form of the length fields in
them.
-/

namespace RpcDispatch

/-- A payload is the list of its bytes, first byte first. -/
abbrev Bytes := List UInt8

namespace Bytes

/-- A number in a given count of bytes, the least significant byte first. -/
def littleEndian : (count value : Nat) → Bytes
  | 0, _ => []
  | count + 1, value => (value % 256).toUInt8 :: littleEndian count (value / 256)

/-- The number that the bytes stand for. -/
def ofLittleEndian : Bytes → Nat
  | [] => 0
  | byte :: rest => byte.toNat + 256 * ofLittleEndian rest

/-- Length fields have four bytes. -/
def lengthField (length : Nat) : Bytes :=
  littleEndian 4 length

/-- A length fits its field below this bound. -/
def lengthBound : Nat := 0x100000000

end Bytes

end RpcDispatch
