/-
This file splits the payload of a request into its JSON text and its binary tail.
-/

import RpcDispatch.Rpc.Error

namespace RpcDispatch.Rpc

/-- A text payload is JSON as a whole.  A binary payload has the length of its JSON text in front
and raw bytes behind it. -/
inductive Framing where
  | text
  | binary
  deriving DecidableEq, Inhabited

/-- The parts of a payload. -/
structure Parts where
  json : Bytes
  tail : Bytes
  deriving DecidableEq

/-- A binary payload without JSON text carries raw data only. -/
def Parts.isRawChunk (parts : Parts) : Bool :=
  parts.json.isEmpty

inductive SplitFault where
  | shortHeader (length : Nat)
  | shortJson (announced remaining : Nat)
  deriving DecidableEq

def SplitFault.message : SplitFault → String
  | .shortHeader length => s!"Binary frame of {length} bytes is shorter than its 4-byte header"
  | .shortJson announced remaining =>
    s!"Binary frame announces {announced} JSON bytes but only {remaining} remain"

/-- The parts of a binary payload. -/
def splitBinary (payload : Bytes) : Except SplitFault Parts :=
  if payload.length < 4 then .error (.shortHeader payload.length)
  else
    let announced := Bytes.ofLittleEndian (payload.take 4)
    let rest := payload.drop 4
    if announced ≤ rest.length then .ok ⟨rest.take announced, rest.drop announced⟩
    else .error (.shortJson announced rest.length)

/-- The parts of a payload of either framing. -/
def split (payload : Bytes) : Framing → Except SplitFault Parts
  | .text => .ok ⟨payload, []⟩
  | .binary => splitBinary payload

/-- The binary payload with the given parts, for JSON text of less than `2 ^ 32` bytes. -/
def Parts.join (parts : Parts) : Bytes :=
  Bytes.lengthField parts.json.length ++ parts.json ++ parts.tail

end RpcDispatch.Rpc
