/-
This file defines requests and their reply channels.  All copies of a request share one channel,
which knows whether the request has been answered and whether its client has left.
-/

import RpcDispatch.Client
import RpcDispatch.Rpc.Message

namespace RpcDispatch

/-- A request bound to the client that sent it. -/
structure Request where
  client : ClientId
  message : Rpc.Message
  binary : Bytes

namespace Request

def id (request : Request) : Rpc.Id :=
  request.message.id

def method (request : Request) : String :=
  request.message.method

def params (request : Request) : Json.Value :=
  request.message.params

/-- A notification expects no answer. -/
def isNotification (request : Request) : Bool :=
  request.id.isEmpty

/-- Params of another shape than the method expects are invalid. -/
def paramsAs {α : Type} (request : Request) (decoder : Json.Decoder α) : Except Rpc.Error α :=
  match decoder.ofValue request.params with
  | .ok params => .ok params
  | .error shape => .error (.invalidParams shape.message [])

end Request

/-- The state that the copies of a request share. -/
structure Channel where
  request : Request
  answered : Bool
  closed : Bool

/-- The channel of a new request. -/
def Channel.open (request : Request) : Channel :=
  ⟨request, false, false⟩

end RpcDispatch
