/-
This file defines the frames of a connection: a tag, the length of the payload and the payload.
-/

import RpcDispatch.Rpc.Payload
import RpcDispatch.Wire.Source

namespace RpcDispatch.Wire

structure Frame where
  framing : Rpc.Framing
  payload : Bytes
  deriving DecidableEq

inductive FrameFault where
  | tooLarge (size limit : Nat)
  | unknownTag (tag : UInt8)
  | truncated
  | io (message : String)
  deriving DecidableEq

def FrameFault.message : FrameFault → String
  | .tooLarge size limit => s!"frame of {size} bytes exceeds the {limit}-byte limit"
  | .unknownTag tag => s!"unknown frame tag {tag.toNat}"
  | .truncated => "connection closed in the middle of a frame"
  | .io message => s!"frame IO failed: {message}"

/-- A frame that lacks bytes was cut off, unless reading failed. -/
def FrameFault.ofShortage : Source.Shortage → FrameFault
  | .ended => .truncated
  | .failed message => .io message

/-- The tag of a framing. -/
def tagOf : Rpc.Framing → UInt8
  | .text => 0
  | .binary => 1

def framingOf? (tag : UInt8) : Option Rpc.Framing :=
  if tag = 0 then some .text else if tag = 1 then some .binary else none

namespace Frame

/-! ### Reading -/

/-- The payload after a header. -/
def readPayload (limit : Nat) (tag : UInt8) (length : Bytes) (source : Source) :
    Except FrameFault Frame × Source :=
  match framingOf? tag with
  | none => (.error (.unknownTag tag), source)
  | some framing =>
    let size := Bytes.ofLittleEndian length
    if limit < size then (.error (.tooLarge size limit), source)
    else
      match source.take size with
      | (.ok payload, rest) => (.ok ⟨framing, payload⟩, rest)
      | (.error shortage, rest) => (.error (.ofShortage shortage), rest)

/-- The next frame, or nothing at a clean end. -/
def read (limit : Nat) (source : Source) : Except FrameFault (Option Frame) × Source :=
  match source.take 1 with
  | (.error (.failed message), rest) => (.error (.io message), rest)
  | (.ok [tag], rest) =>
    match rest.take 4 with
    | (.error shortage, rest) => (.error (.ofShortage shortage), rest)
    | (.ok length, rest) =>
      let (result, rest) := readPayload limit tag length rest
      (result.map some, rest)
  | (_, rest) => (.ok none, rest)

/-- How reading ended, and the frames before. -/
structure Reading where
  frames : List Frame
  fault : Option FrameFault
  rest : Source

/-- Reads frames until the end or a fault; every frame takes bytes of the source. -/
def readMany (limit : Nat) : (fuel : Nat) → (reversed : List Frame) → Source → Reading
  | 0, reversed, source => ⟨reversed.reverse, none, source⟩
  | fuel + 1, reversed, source =>
    match read limit source with
    | (.error fault, rest) => ⟨reversed.reverse, some fault, rest⟩
    | (.ok none, rest) => ⟨reversed.reverse, none, rest⟩
    | (.ok (some frame), rest) => readMany limit fuel (frame :: reversed) rest

/-- All frames of a source up to the first fault. -/
def readAll (limit : Nat) (source : Source) : Reading :=
  readMany limit (source.size + 1) [] source

/-- How many bytes have to follow before an incomplete frame can be complete: first those of its
header, then those of its payload. -/
def lacking (bytes : Bytes) : Nat :=
  if bytes.length < 5 then 5 - bytes.length
  else 5 + Bytes.ofLittleEndian ((bytes.drop 1).take 4) - bytes.length

/-! ### Writing -/

/-- The bytes of a frame whose length fits its field. -/
def encode (frame : Frame) : Bytes :=
  tagOf frame.framing :: Bytes.lengthField frame.payload.length ++ frame.payload

/-- Where frames are written.  A full writer takes no more bytes, which is a fault of its own or
an incomplete write. -/
structure Sink where
  capacity : Option Nat
  fullMessage : Option String
  flushMessage : Option String

/-- Writes a frame and gives what the sink took. -/
def write (frame : Frame) (sink : Sink) : Except FrameFault Unit × Bytes :=
  if Bytes.lengthBound ≤ frame.payload.length then
    (.error (.tooLarge frame.payload.length (Bytes.lengthBound - 1)), [])
  else
    let bytes := frame.encode
    let capacity := sink.capacity.getD bytes.length
    if capacity < bytes.length then
      (.error (.io (sink.fullMessage.getD "failed to write whole buffer")), bytes.take capacity)
    else
      match sink.flushMessage with
      | some message => (.error (.io message), bytes)
      | none => (.ok (), bytes)

end Frame

end RpcDispatch.Wire
