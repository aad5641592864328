/-
This file defines the daemon: streams of bytes on one side, the service on the other.  A frame is
served as soon as its last byte is there.
-/

import RpcDispatch.Service
import RpcDispatch.Wire.Connection

namespace RpcDispatch

/-- The connection of a client. -/
structure Stream where
  client : ClientId
  /-- The bytes of a frame that is not complete. -/
  unread : Bytes
  isOpen : Bool
  /-- The texts that the client has not received. -/
  replies : List String

/-- A stream from which nothing is read any more. -/
def Stream.ended (stream : Stream) : Stream :=
  { stream with unread := [], isOpen := false }

structure Daemon (σ : Type) where
  service : Service σ
  streams : List Stream
  /-- The greatest payload of a frame. -/
  limit : Nat
  /-- The reports that the log has not received. -/
  reports : List (Thread × Log.Notice)

namespace Daemon

variable {σ : Type}

def start (service : Service σ) (limit : Nat) : Daemon σ :=
  ⟨service, [], limit, []⟩

/-! ### Output -/

/-- The texts that were sent to a client. -/
def sentTo (client : ClientId) (trace : List Event) : List String :=
  trace.filterMap fun
    | .sent receiver text none => if receiver = client then some text else none
    | _ => none

def reportsIn (trace : List Event) : List (Thread × Log.Notice) :=
  trace.filterMap fun
    | .logged thread notice => some (thread, notice)
    | _ => none

/-- Gives the texts that the service has sent to the streams that are open. -/
def deliver (daemon : Daemon σ) : Daemon σ :=
  let trace := daemon.service.exchange.trace
  let streams := daemon.streams.map fun stream =>
    if stream.isOpen then
      { stream with replies := stream.replies ++ sentTo stream.client trace }
    else stream
  let exchange := { daemon.service.exchange with trace := [] }
  { daemon with
    service := { daemon.service with exchange }
    streams
    reports := daemon.reports ++ reportsIn trace }

/-! ### Service -/

/-- A step of a connection reaches the service. -/
def observe (service : Service σ) : Wire.Step → Service σ
  | .arrived arrival => service.notify arrival
  | .reported notice => { service with exchange := service.exchange.log notice }

/-- Serves what connections did. -/
def serve (daemon : Daemon σ) (steps : List Wire.Step) : Daemon σ :=
  deliver { daemon with service := (steps.foldl observe daemon.service).waitTimeout }

/-- The last steps of a connection. -/
def closing (client : ClientId) (fault : Option Wire.FrameFault) : List Wire.Step :=
  (fault.toList.map fun fault => .reported (.frameFailed client fault.message))
    ++ [.reported (.connectionClosed client), .arrived (.disconnection client)]

/-! ### Streams -/

/-- Takes the complete frames from the front of a stream. -/
def takeFrames (limit : Nat) : (fuel : Nat) → Stream → List Wire.Step × Stream
  | 0, stream => ([], stream)
  | fuel + 1, stream =>
    match Wire.Frame.read limit (.ofBytes stream.unread) with
    | (.ok none, _) | (.error .truncated, _) => ([], stream)
    | (.ok (some frame), rest) =>
      let (steps, stream) := takeFrames limit fuel { stream with unread := rest.current }
      (.arrived (.request ⟨stream.client, frame.payload, frame.framing⟩) :: steps, stream)
    | (.error fault, _) => (closing stream.client fault, stream.ended)

def connect (daemon : Daemon σ) : Daemon σ :=
  let client := Wire.clientAt daemon.streams.length
  serve { daemon with streams := daemon.streams ++ [⟨client, [], true, []⟩] }
    [.reported (.connectionOpened client), .arrived (.connection client)]

/-- A client writes bytes to its stream. -/
def receive (daemon : Daemon σ) (index : Nat) (bytes : Bytes) : Daemon σ :=
  match daemon.streams[index]? with
  | none => daemon
  | some stream =>
    if stream.isOpen then
      let unread := stream.unread ++ bytes
      let (steps, stream) := takeFrames daemon.limit (unread.length + 1) { stream with unread }
      serve { daemon with streams := daemon.streams.set index stream } steps
    else daemon

/-- A client closes its stream, perhaps within a frame. -/
def close (daemon : Daemon σ) (index : Nat) : Daemon σ :=
  match daemon.streams[index]? with
  | none => daemon
  | some stream =>
    if stream.isOpen then
      let fault := if stream.unread.isEmpty then none else some .truncated
      serve { daemon with streams := daemon.streams.set index stream.ended }
        (closing stream.client fault)
    else daemon

/-- The next text for a client, or nothing when no more can come. -/
def reply? (daemon : Daemon σ) (index : Nat) : Option (String × Daemon σ) :=
  match daemon.streams[index]? with
  | some stream =>
    match stream.replies with
    | text :: replies =>
      some (text, { daemon with streams := daemon.streams.set index { stream with replies } })
    | [] => none
  | none => none

end Daemon

end RpcDispatch
