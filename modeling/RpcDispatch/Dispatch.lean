/-
This file routes requests.  The methods `cancel` and `registry` are answered here because they act
on the tasks and on the registry; a payload that is no request, or names no method, is answered
here too and never becomes a task.
-/

import RpcDispatch.Entrypoint.Registry
import RpcDispatch.Inbox
import RpcDispatch.Rpc.Envelope
import RpcDispatch.Task.Manager

namespace RpcDispatch

/-- The methods that are answered without an entrypoint. -/
def builtinMethods : List String :=
  ["cancel", "registry"]

/-- A registry that refuses the names of the built-in methods. -/
def builtinRegistry {σ : Type} : Registry σ :=
  .empty builtinMethods

/-- The params of `cancel` name the request to stop. -/
structure CancelParams where
  id : Rpc.Id

namespace CancelParams

/-- The field that has been read. -/
structure Draft where
  id : Option Rpc.Id := none

def record : Json.Record Draft CancelParams where
  title := "struct CancelParams"
  fields := [
    { name := "id"
      isSet := (·.id.isSome)
      decoder := .map (fun id _ => { id := some id }) Rpc.Id.decoder
      hasDefault := true }]
  empty := {}
  build draft := .ok ⟨draft.id.getD .absent⟩

end CancelParams

structure Dispatcher (σ : Type) where
  registry : Registry σ
  consumer : Option (Consumer σ)

namespace Dispatcher

variable {σ : Type}

/-- All methods that clients can call, in order. -/
def methodNames (dispatcher : Dispatcher σ) : List String :=
  (Json.collectMembers
    ((dispatcher.registry.methods ++ builtinMethods).map fun name => (name, ()))).map Prod.fst

/-- Answers a payload that never becomes a task. -/
def reject (client : ClientId) (id : Rpc.Id) (error : Rpc.Error) (exchange : Exchange σ) :
    Exchange σ :=
  let reported := exchange.log (.rejected client id error)
  match reported.pause.attempt client (Rpc.errorText id error) with
  | (none, sent) => sent
  | (some fault, sent) => sent.log (.rejectionUndelivered client fault)

/-- A raw chunk goes to the consumer. -/
def dispatchChunk (dispatcher : Dispatcher σ) (client : ClientId) (bytes : Bytes)
    (manager : TaskManager σ) (exchange : Exchange σ) : TaskManager σ × Exchange σ :=
  match dispatcher.consumer with
  | none => (manager, exchange.log (.chunkDropped client bytes.length))
  | some consumer => manager.add (.chunk ⟨client, bytes, consumer⟩) exchange

/-- The built-in method that cancels a task of the calling client. -/
def cancel (key : Key) (request : Request) (manager : TaskManager σ) (exchange : Exchange σ) :
    TaskManager σ × Exchange σ :=
  match request.paramsAs CancelParams.record.decoder with
  | .error error => (manager, exchange.pause.error key error)
  | .ok params =>
    match manager.cancel request.client params.id exchange with
    | (.ok (), manager, exchange) => (manager, exchange.pause.reply key (.ok .null))
    | (.error error, manager, exchange) => (manager, exchange.pause.error key error)

/-- Routes a request by its method. -/
def route (dispatcher : Dispatcher σ) (key : Key) (request : Request) (manager : TaskManager σ)
    (exchange : Exchange σ) : TaskManager σ × Exchange σ :=
  if request.method = "cancel" then cancel key request manager exchange
  else if request.method = "registry" then
    (manager,
      exchange.pause.reply key (.ok (.array (dispatcher.methodNames.map Json.Value.string))))
  else
    match dispatcher.registry.find? request.method with
    | some entrypoint => manager.add (.request (.create key request entrypoint)) exchange
    | none =>
      (manager, (exchange.log (.unknownMethod request.client request.method)).pause.error key
        (.methodNotFound request.method))

/-- Parses a payload and routes the request in it. -/
def dispatchEnvelope (dispatcher : Dispatcher σ) (raw : RawRequest) (manager : TaskManager σ)
    (exchange : Exchange σ) : TaskManager σ × Exchange σ :=
  match Rpc.Envelope.parse raw.payload raw.framing with
  | .error rejection => (manager, reject raw.client rejection.id rejection.error exchange)
  | .ok envelope =>
    let request : Request := ⟨raw.client, envelope.message, envelope.binary⟩
    let (key, exchange) := exchange.enroll request
    dispatcher.route key request manager
      (exchange.log (.dispatching request.client request.id request.method))

/-- A binary payload without JSON text is a raw chunk; any other payload is a request. -/
def dispatchRequest (dispatcher : Dispatcher σ) (raw : RawRequest) (manager : TaskManager σ)
    (exchange : Exchange σ) : TaskManager σ × Exchange σ :=
  match raw.framing with
  | .text => dispatcher.dispatchEnvelope raw manager exchange
  | .binary =>
    match Rpc.splitBinary raw.payload with
    | .error fault => (manager, reject raw.client .absent (.parsing fault.message) exchange)
    | .ok parts =>
      if parts.isRawChunk then dispatcher.dispatchChunk raw.client parts.tail manager exchange
      else dispatcher.dispatchEnvelope raw manager exchange

/-- Reports connections, routes the requests in order, and then disconnects tasks. -/
def dispatch (dispatcher : Dispatcher σ) (inbox : Inbox) (manager : TaskManager σ)
    (exchange : Exchange σ) : TaskManager σ × Exchange σ :=
  let exchange := inbox.connected.foldl (fun exchange client =>
    exchange.log (.clientConnected client)) exchange
  let (manager, exchange) := inbox.requests.foldl (fun (manager, exchange) raw =>
    dispatcher.dispatchRequest raw manager exchange) (manager, exchange)
  inbox.disconnected.foldl (fun (manager, exchange) client =>
    manager.disconnect client (exchange.log (.clientDisconnected client))) (manager, exchange)

def debugText (dispatcher : Dispatcher σ) : String :=
  "TaskDispatcher \x7b registry: " ++ dispatcher.registry.debugText ++ ", binary_consumer: "
    ++ (if dispatcher.consumer.isSome then "true" else "false") ++ " \x7d"

end Dispatcher

end RpcDispatch
