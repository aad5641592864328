/-
This file defines tasks: a request with the entrypoint that handles it, a raw chunk with its
consumer, or work that the application supplies itself.
-/

import RpcDispatch.Entrypoint.Basic

namespace RpcDispatch

/-! ### Requests -/

/-- A request task runs once, unless it is cancelled or its client leaves before. -/
structure RequestTask (σ : Type) where
  key : Key
  request : Request
  entrypoint : Entrypoint σ
  running : Bool
  cancelled : Bool
  disconnected : Bool

namespace RequestTask

variable {σ : Type}

/-- A task that nothing has happened to. -/
def create (key : Key) (request : Request) (entrypoint : Entrypoint σ) : RequestTask σ :=
  ⟨key, request, entrypoint, false, false, false⟩

/-- Calls the request hook and answers its failure. -/
def invoke (task : RequestTask σ) (exchange : Exchange σ) : Exchange σ :=
  let request := task.request
  match exchange.callRequest task.entrypoint task.key request with
  | (outcome, called) =>
    match outcome.error? with
    | none => called
    | some error =>
      (called.log (.taskFailed request.client request.id request.method error)).pause.error
        task.key error

/-- A task of a client that has left does nothing, a cancelled one answers so. -/
def run (task : RequestTask σ) (exchange : Exchange σ) : RequestTask σ × Exchange σ :=
  let request := task.request
  if task.disconnected then (task, exchange.log (.taskSkipped request.client request.method))
  else if task.cancelled then (task, exchange.pause.error task.key .taskCancelled)
  else if task.running then (task, exchange)
  else
    ({ task with running := true },
      task.invoke (exchange.log (.taskRunning request.client request.id request.method)))

/-- Only asynchronous tasks can be cancelled, and once.  One that has run asks its entrypoint to
stop. -/
def cancel (task : RequestTask σ) (exchange : Exchange σ) :
    Except Rpc.Error Unit × RequestTask σ × Exchange σ :=
  let request := task.request
  if !task.entrypoint.isAsync then
    (.error (.invalidParams s!"Method '{request.method}' cannot be cancelled" []), task, exchange)
  else if task.cancelled then
    (.error (.invalidParams s!"Task {request.id.display} is already cancelled" []), task, exchange)
  else
    (.ok (), { task with cancelled := true },
      if task.running then exchange.callCancel task.entrypoint task.key else exchange)

/-- Closes the request and tells the entrypoint, the first time only. -/
def disconnect (task : RequestTask σ) (exchange : Exchange σ) : RequestTask σ × Exchange σ :=
  let request := task.request
  if task.disconnected then (task, exchange)
  else
    ({ task with disconnected := true },
      match (exchange.pause.close task.key).callDisconnect task.entrypoint task.key with
      | (none, called) => called
      | (some failure, called) =>
        called.log (.disconnectHookFailed request.client request.method failure.display))

def isAnswered (task : RequestTask σ) (exchange : Exchange σ) : Bool :=
  (exchange.channel? task.key).any (·.answered)

def isClosed (task : RequestTask σ) (exchange : Exchange σ) : Bool :=
  (exchange.channel? task.key).any (·.closed)

/-- An asynchronous task that has run is pending until its request is answered. -/
def isPending (task : RequestTask σ) (exchange : Exchange σ) : Bool :=
  task.running && !task.disconnected && task.entrypoint.isAsync && !task.request.isNotification
    && !task.isAnswered exchange

def debugText (task : RequestTask σ) : String :=
  let flag (value : Bool) : String := if value then "true" else "false"
  "JsonRpcTask \x7b client: " ++ task.request.client.debugText
    ++ ", id: " ++ task.request.id.debugText
    ++ ", method: " ++ Text.quoted task.request.method
    ++ ", running: " ++ flag task.running
    ++ ", cancelled: " ++ flag task.cancelled
    ++ ", disconnected: " ++ flag task.disconnected ++ " \x7d"

end RequestTask

/-! ### Chunks -/

structure ChunkTask (σ : Type) where
  client : ClientId
  bytes : Bytes
  consumer : Consumer σ

namespace ChunkTask

variable {σ : Type}

/-- Chunks have no identifier, so a rejected one is only reported. -/
def run (task : ChunkTask σ) (exchange : Exchange σ) : Exchange σ :=
  match exchange.callConsumer task.consumer task.client task.bytes with
  | (none, called) => called
  | (some error, called) => called.log (.chunkRejected task.client error.message)

/-- No client can name a chunk. -/
def cancelError : Rpc.Error :=
  .internal "binary tasks cannot be cancelled"

def debugText (task : ChunkTask σ) : String :=
  "BinaryTask \x7b client: " ++ task.client.debugText
    ++ ", bytes: " ++ toString task.bytes.length ++ ", .. \x7d"

end ChunkTask

/-! ### Tasks of the application -/

structure ExternalTask (σ : Type) where
  client : ClientId
  id : Rpc.Id
  method : String
  hasPriority : Bool
  run : Script σ Unit
  cancel : Script σ (Except Rpc.Error Unit)
  disconnect : Script σ Unit
  isPending : σ → Bool

/-! ### All tasks -/

inductive Task (σ : Type) where
  | request (task : RequestTask σ)
  | chunk (task : ChunkTask σ)
  | external (task : ExternalTask σ)

namespace Task

variable {σ : Type}

def client : Task σ → ClientId
  | .request task => task.request.client
  | .chunk task => task.client
  | .external task => task.client

def id : Task σ → Rpc.Id
  | .request task => task.request.id
  | .chunk _ => .absent
  | .external task => task.id

def method : Task σ → String
  | .request task => task.request.method
  | .chunk _ => "binary"
  | .external task => task.method

def hasPriority : Task σ → Bool
  | .request task => task.entrypoint.hasPriority
  | .chunk _ => true
  | .external task => task.hasPriority

def run : Task σ → Exchange σ → Task σ × Exchange σ
  | .request task, exchange =>
    let (task, exchange) := task.run exchange
    (.request task, exchange)
  | .chunk task, exchange => (.chunk task, task.run exchange)
  | .external task, exchange => (.external task, (task.run.run exchange).2)

def cancel : Task σ → Exchange σ → Except Rpc.Error Unit × Task σ × Exchange σ
  | .request task, exchange =>
    let (outcome, task, exchange) := task.cancel exchange
    (outcome, .request task, exchange)
  | .chunk task, exchange => (.error ChunkTask.cancelError, .chunk task, exchange)
  | .external task, exchange =>
    let (outcome, exchange) := task.cancel.run exchange
    (outcome, .external task, exchange)

def disconnect : Task σ → Exchange σ → Task σ × Exchange σ
  | .request task, exchange =>
    let (task, exchange) := task.disconnect exchange
    (.request task, exchange)
  | .chunk task, exchange => (.chunk task, exchange)
  | .external task, exchange => (.external task, (task.disconnect.run exchange).2)

def isPending : Task σ → Exchange σ → Bool
  | .request task, exchange => task.isPending exchange
  | .chunk _, _ => false
  | .external task, exchange => task.isPending exchange.state

/-- Whether the task belongs to the client and answers the identifier. -/
def isFor (task : Task σ) (client : ClientId) (id : Rpc.Id) : Bool :=
  task.client == client && task.id == id

end Task

end RpcDispatch
