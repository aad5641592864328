/-
This file defines what a connection reports to the inbox: that it is there, each of its frames,
and that it is gone.
-/

import RpcDispatch.Inbox
import RpcDispatch.Wire.Frame

namespace RpcDispatch.Wire

/-- What a connection does in order: it reports arrivals and writes to the log. -/
inductive Step where
  | arrived (arrival : Arrival)
  | reported (notice : Log.Notice)
  deriving DecidableEq

/-- The records of a step in the log. -/
def Step.notice : Step → Log.Notice
  | .arrived arrival => arrival.notice
  | .reported notice => notice

/-- The counter of clients wraps after this many connections. -/
def clientBound : Nat := 0x10000000000000000

/-- Clients are numbered from one in the order of their connections. -/
def clientAt (index : Nat) : ClientId :=
  ⟨(index + 1) % clientBound⟩

/-- A connection that was served to its end. -/
structure Served where
  steps : List Step
  /-- After a fault nothing can be sent. -/
  fault : Option FrameFault

/-- Serves a connection: a frame that cannot be read ends it. -/
def serve (client : ClientId) (limit : Nat) (source : Source) : Served :=
  let reading := Frame.readAll limit source
  let requests := reading.frames.map fun frame =>
    Step.arrived (.request ⟨client, frame.payload, frame.framing⟩)
  let faults := reading.fault.toList.map fun fault =>
    Step.reported (.frameFailed client fault.message)
  ⟨[.reported (.connectionOpened client), .arrived (.connection client)] ++ requests ++ faults
    ++ [.reported (.connectionClosed client), .arrived (.disconnection client)], reading.fault⟩

/-- The inbox after the steps of a connection. -/
def collect (inbox : Inbox) (steps : List Step) : Inbox :=
  steps.foldl (fun inbox step =>
    match step with
    | .arrived arrival => inbox.push arrival
    | .reported _ => inbox) inbox

/-- A text is sent as a frame. -/
def textFrame (text : String) : Frame :=
  ⟨.text, Text.Utf8.encode text⟩

end RpcDispatch.Wire
