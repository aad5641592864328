/-
This file defines the inbox between the connections and the service.  Events of one kind keep
their order; the order between kinds is not kept.
-/

import RpcDispatch.Client
import RpcDispatch.Log.Notice
import RpcDispatch.Rpc.Payload

namespace RpcDispatch

/-- A frame as it came from a client. -/
structure RawRequest where
  client : ClientId
  payload : Bytes
  framing : Rpc.Framing
  deriving DecidableEq

/-- The events since the last exchange. -/
structure Inbox where
  connected : List ClientId
  disconnected : List ClientId
  requests : List RawRequest
  deriving DecidableEq

/-- What a connection reports. -/
inductive Arrival where
  | connection (client : ClientId)
  | disconnection (client : ClientId)
  | request (raw : RawRequest)
  deriving DecidableEq

/-- The report of an arrival in the log. -/
def Arrival.notice : Arrival → Log.Notice
  | .connection client => .connectionQueued client
  | .disconnection client => .disconnectionQueued client
  | .request raw => .requestQueued raw.client raw.payload.length

namespace Inbox

def empty : Inbox :=
  ⟨[], [], []⟩

def isEmpty (inbox : Inbox) : Bool :=
  inbox.connected.isEmpty && inbox.disconnected.isEmpty && inbox.requests.isEmpty

def push (inbox : Inbox) : Arrival → Inbox
  | .connection client => { inbox with connected := inbox.connected ++ [client] }
  | .disconnection client => { inbox with disconnected := inbox.disconnected ++ [client] }
  | .request request => { inbox with requests := inbox.requests ++ [request] }

/-- Takes everything, which leaves the inbox empty. -/
def poll (inbox : Inbox) : Inbox × Inbox :=
  (inbox, empty)

/-- Waiting for an event goes on while the inbox is empty. -/
def wait? (inbox : Inbox) : Option (Inbox × Inbox) :=
  if inbox.isEmpty then none else some inbox.poll

/-- Waiting for a limited time gives up with nothing. -/
def waitTimeout (inbox : Inbox) : Inbox × Inbox :=
  inbox.wait?.getD (empty, inbox)

/-- Discards what is there. -/
def clear (_ : Inbox) : Inbox :=
  empty

end Inbox

end RpcDispatch
