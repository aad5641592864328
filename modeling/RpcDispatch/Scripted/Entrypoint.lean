/-
This file defines entrypoints by data.  A specification lists what the entrypoint does with its
requests when each of its hooks is called.
-/

import RpcDispatch.Entrypoint.Basic
import RpcDispatch.Scripted.Params
import RpcDispatch.Scripted.Run

namespace RpcDispatch.Scripted

/-- What can be done with a request. -/
inductive Action where
  | reply (result : Except String Json.Value)
  | echo
  | binary
  | info
  | params (type : ParamsType)
  | error (error : Rpc.Error)
  | progress (operation : String) (amount : Float)
  | close
  | hold
  | dropHeld
  | fail (cause : Entrypoint.Failure)
  | panic (text : String)
  | start

def hexText (bytes : Bytes) : String :=
  String.ofList (bytes.flatMap fun byte =>
    [Json.hexDigit (byte.toNat / 16), Json.hexDigit (byte.toNat % 16)])

/-- What a request knows about itself. -/
def infoValue (channel : Channel) : Json.Value :=
  let request := channel.request
  .ofMembers [
    ("client", .string request.client.display),
    ("id", .string request.id.display),
    ("method", .string request.method),
    ("notification", .bool request.isNotification),
    ("answered", .bool channel.answered),
    ("closed", .bool channel.closed),
    ("message", .string request.message.text),
    ("binary", .integer request.binary.length)]

/-- Replies with a value made from the channel of the request. -/
def replyWith (key : Key) (value : Channel → Json.Value) : AppScript Outcome := do
  match ← Script.channel? key with
  | some channel => .perform (.reply key (.ok (value channel)))
  | none => return .success
  return .success

/-- One action on a request of a method. -/
def Action.run (method : String) (key : Key) : Action → AppScript Outcome
  | .reply result => do
    .perform (.reply key result)
    return .success
  | .echo => replyWith key (·.request.params)
  | .binary => replyWith key fun channel => .string (hexText channel.request.binary)
  | .info => replyWith key infoValue
  | .params type => do
    match ← Script.channel? key with
    | none => return .success
    | some channel =>
      match type.normalize channel.request.params with
      | .error shape => return .failure (.rpc (.invalidParams shape.message []))
      | .ok value =>
        .perform (.reply key (.ok value))
        return .success
  | .error cause => do
    .perform (.error key cause)
    return .success
  | .progress operation amount => do
    .perform (.progress key operation amount)
    return .success
  | .close => do
    .perform (.close key)
    return .success
  | .hold => do
    changeStation method fun station => { station with held := station.held ++ [key] }
    return .success
  | .dropHeld => do
    changeStation method fun station => { station with held := [] }
    return .success
  | .fail cause => return .failure cause
  | .panic text => return .panic text
  | .start => do
    changeStation method fun station => { station with next := some key }
    startJob method
    return .success

/-- The actions in order, up to the first that does not succeed. -/
def runActions (method : String) (key : Key) : List Action → AppScript Outcome
  | [] => return .success
  | action :: rest => do
    match ← action.run method key with
    | .success => runActions method key rest
    | outcome => return outcome

structure Spec where
  method : String
  hasPriority : Bool
  isAsync : Bool
  script : List Action
  onCancel : List Action
  onUpdate : List Action
  onDisconnect : Option Entrypoint.Failure
  notesUpdate : Bool
  runs : Option (List (List Instruction))

namespace Spec

/-- The station of an entrypoint before its first request. -/
def station (spec : Spec) : Station :=
  match spec.runs with
  | none => {}
  | some runs => { job := some .idle, bodies := runs.map (bodyOf spec.method) }

/-- Acts on every request that is held, the oldest first.  An action that fails does not keep the
later ones from being tried. -/
def runHeld (method : String) (actions : List Action) : AppScript Unit :=
  .read fun app =>
    Script.sequence ((app.station method).held.flatMap fun key =>
      actions.map fun action => (action.run method key).bind fun _ => .done ())

def entrypoint (spec : Spec) : RpcDispatch.Entrypoint App where
  method := spec.method
  hasPriority := spec.hasPriority
  isAsync := spec.isAsync
  onRequest key _ := do
    note [.string "on_request", .string spec.method]
    runActions spec.method key spec.script
  onCancel := do
    note [.string "on_cancel", .string spec.method]
    let _ ← cancelJob spec.method
    runHeld spec.method spec.onCancel
  onDisconnect := do
    note [.string "on_disconnect", .string spec.method]
    let _ ← cancelJob spec.method
    return spec.onDisconnect
  onUpdate := do
    if spec.notesUpdate then note [.string "on_update", .string spec.method]
    let _ ← pollJob spec.method
    runHeld spec.method spec.onUpdate

end Spec

/-- An entrypoint that does nothing. -/
def idleEntrypoint (method : String) : RpcDispatch.Entrypoint App where
  method := method
  onRequest _ _ := return .success

/-- A consumer that notes its chunks and may fail for each. -/
def consumer (failure : Option Rpc.Error) : Consumer App := fun client bytes => do
  note [.string "binary", .integer client.number, .string (hexText bytes)]
  return failure

end RpcDispatch.Scripted
