/-
This file defines entrypoints: the methods that clients can call, each with the hooks that the
service runs for it.
-/

import RpcDispatch.Entrypoint.Error
import RpcDispatch.Exchange.Script

namespace RpcDispatch

/-- How a request hook ends. -/
inductive Outcome where
  | success
  | failure (cause : Entrypoint.Failure)
  | panic (text : String)

/-- The error that an outcome is answered with. -/
def Outcome.error? : Outcome → Option Rpc.Error
  | .success => none
  | .failure cause => some cause.toRpc
  | .panic text => some (.internal ("Entrypoint panicked: " ++ text))

structure Entrypoint (σ : Type) where
  method : String
  description : String := ""
  /-- Requests with priority run when they are dispatched. -/
  hasPriority : Bool := false
  /-- An asynchronous entrypoint may answer later and can be cancelled. -/
  isAsync : Bool := false
  onRequest : Key → Request → Script σ Outcome
  onCancel : Script σ Unit := .done ()
  onDisconnect : Script σ (Option Entrypoint.Failure) := .done none
  onUpdate : Script σ Unit := .done ()

namespace Exchange

variable {σ : Type}

def callRequest (exchange : Exchange σ) (entrypoint : Entrypoint σ) (key : Key)
    (request : Request) : Outcome × Exchange σ :=
  (entrypoint.onRequest key request).run
    (exchange.record (.called entrypoint.method (.request key)))

def callCancel (exchange : Exchange σ) (entrypoint : Entrypoint σ) (key : Key) : Exchange σ :=
  (entrypoint.onCancel.run (exchange.record (.called entrypoint.method (.cancel key)))).2

def callDisconnect (exchange : Exchange σ) (entrypoint : Entrypoint σ) (key : Key) :
    Option Entrypoint.Failure × Exchange σ :=
  entrypoint.onDisconnect.run (exchange.record (.called entrypoint.method (.disconnect key)))

def callUpdate (exchange : Exchange σ) (entrypoint : Entrypoint σ) : Exchange σ :=
  (entrypoint.onUpdate.run (exchange.record (.called entrypoint.method .update))).2

end Exchange

/-- A consumer takes the raw chunks of all clients. -/
abbrev Consumer (σ : Type) := ClientId → Bytes → Script σ (Option Rpc.Error)

def Exchange.callConsumer {σ : Type} (exchange : Exchange σ) (consumer : Consumer σ)
    (client : ClientId) (bytes : Bytes) : Option Rpc.Error × Exchange σ :=
  (consumer client bytes).run (exchange.record (.chunk client bytes))

end RpcDispatch
