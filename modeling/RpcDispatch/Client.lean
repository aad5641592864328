/-
This file defines the identity of connected clients and the failures of sending to them.
-/

import RpcDispatch.Bytes

namespace RpcDispatch

/-- The transport numbers the clients. -/
structure ClientId where
  number : Nat
  deriving DecidableEq, Inhabited

namespace ClientId

def display (client : ClientId) : String :=
  "client-" ++ toString client.number

/-- The form that shows the wrapping of the number. -/
def debugText (client : ClientId) : String :=
  s!"ClientRef(ClientId({client.number}))"

end ClientId

/-- Why a text did not reach a client. -/
inductive SendFault where
  | disconnected
  | io (source : String)
  | poisoned
  deriving DecidableEq

def SendFault.message (client : ClientId) : SendFault → String
  | .disconnected => s!"{client.display} is disconnected"
  | .io source => s!"failed to write to {client.display}: {source}"
  | .poisoned => s!"writer for {client.display} is poisoned"

end RpcDispatch
