/-
This file lists what the program reports in its log, with the record of each report.
-/

import RpcDispatch.Client
import RpcDispatch.Log.Record
import RpcDispatch.Rpc.Error
import RpcDispatch.Rpc.Id

namespace RpcDispatch.Log

open Rpc (Id)

inductive Notice where
  -- answers
  | answerDropped (client : ClientId) (id : Id)
  | extraAnswer (client : ClientId) (id : Id) (method : String)
  | sending (client : ClientId) (id : Id) (bytes : Nat)
  | undelivered (client : ClientId) (fault : SendFault)
  -- tasks
  | runningPriority (client : ClientId) (method : String)
  | queued (client : ClientId) (method : String) (length : Nat)
  | tasksDisconnected (client : ClientId) (tasks : Nat)
  | taskCancelled (client : ClientId) (id : Id)
  | taskSkipped (client : ClientId) (method : String)
  | taskRunning (client : ClientId) (id : Id) (method : String)
  | taskFailed (client : ClientId) (id : Id) (method : String) (error : Rpc.Error)
  | disconnectHookFailed (client : ClientId) (method message : String)
  | chunkRejected (client : ClientId) (message : String)
  -- dispatch
  | clientConnected (client : ClientId)
  | clientDisconnected (client : ClientId)
  | dispatching (client : ClientId) (id : Id) (method : String)
  | unknownMethod (client : ClientId) (method : String)
  | chunkDropped (client : ClientId) (bytes : Nat)
  | rejected (client : ClientId) (id : Id) (error : Rpc.Error)
  | rejectionUndelivered (client : ClientId) (fault : SendFault)
  | processing (connected disconnected requests : Nat)
  | shuttingDown (queued : Nat)
  -- registry
  | registered (method : String) (priority isAsync : Bool)
  -- inbox
  | connectionQueued (client : ClientId)
  | disconnectionQueued (client : ClientId)
  | requestQueued (client : ClientId) (bytes : Nat)
  -- jobs
  | jobRestarted
  | jobFailed (error : Rpc.Error)
  | jobDropped
  -- connections
  | connectionOpened (client : ClientId)
  | frameFailed (client : ClientId) (message : String)
  | connectionClosed (client : ClientId)
  deriving DecidableEq

namespace Notice

def client (client : ClientId) : String × Field :=
  ("client", .shown client.display)

def id (id : Id) : String × Field :=
  ("id", .shown id.display)

def method (method : String) : String × Field :=
  ("method", .plain method)

def error (message : String) : String × Field :=
  ("error", .shown message)

def count (name : String) (value : Nat) : String × Field :=
  (name, .integer value)

def code (error : Rpc.Error) : String × Field :=
  ("code", .integer error.code)

def record : Notice → Record
  | answerDropped c i => ⟨.debug, .request, "client gone; reply dropped", [client c, id i]⟩
  | extraAnswer c i m =>
    ⟨.warn, .request, "request already answered; dropping extra reply", [client c, id i, method m]⟩
  | sending c i bytes =>
    ⟨.debug, .request, "sending message", [client c, id i, count "bytes" bytes]⟩
  | undelivered c fault =>
    ⟨.warn, .request, "failed to deliver message", [client c, error (fault.message c)]⟩
  | runningPriority c m => ⟨.debug, .task, "running priority task", [client c, method m]⟩
  | queued c m length =>
    ⟨.debug, .task, "queued task", [client c, method m, count "queued" length]⟩
  | tasksDisconnected c tasks =>
    ⟨.debug, .task, "client tasks disconnected", [client c, count "tasks" tasks]⟩
  | taskCancelled c i => ⟨.debug, .task, "task cancelled", [client c, id i]⟩
  | taskSkipped c m =>
    ⟨.debug, .task, "skipping task of disconnected client", [client c, method m]⟩
  | taskRunning c i m => ⟨.debug, .task, "running task", [client c, id i, method m]⟩
  | taskFailed c i m e =>
    ⟨.warn, .task, "task failed", [client c, id i, method m, code e, error e.message]⟩
  | disconnectHookFailed c m message =>
    ⟨.warn, .task, "entrypoint disconnect hook failed", [client c, method m, error message]⟩
  | chunkRejected c message =>
    ⟨.warn, .task, "binary consumer rejected chunk", [client c, error message]⟩
  | clientConnected c => ⟨.info, .dispatch, "client connected", [client c]⟩
  | clientDisconnected c => ⟨.info, .dispatch, "client disconnected", [client c]⟩
  | dispatching c i m => ⟨.debug, .dispatch, "dispatching request", [client c, id i, method m]⟩
  | unknownMethod c m => ⟨.warn, .dispatch, "unknown method", [client c, method m]⟩
  | chunkDropped c bytes =>
    ⟨.warn, .dispatch, "dropping binary chunk; no consumer installed",
      [client c, count "bytes" bytes]⟩
  | rejected c i e =>
    ⟨.warn, .dispatch, "rejected request", [client c, id i, code e, error e.message]⟩
  | rejectionUndelivered c fault =>
    ⟨.warn, .dispatch, "failed to deliver rejection", [client c, error (fault.message c)]⟩
  | processing connected disconnected requests =>
    ⟨.debug, .dispatch, "processing network buffer",
      [count "connected" connected, count "disconnected" disconnected,
        count "requests" requests]⟩
  | shuttingDown length =>
    ⟨.info, .dispatch, "shutting down network service", [count "queued" length]⟩
  | registered m priority isAsync =>
    ⟨.debug, .registry, "entrypoint registered",
      [("method", .shown m), ("priority", .flag priority), ("is_async", .flag isAsync)]⟩
  | connectionQueued c => ⟨.trace, .monitor, "connection queued", [client c]⟩
  | disconnectionQueued c => ⟨.trace, .monitor, "disconnection queued", [client c]⟩
  | requestQueued c bytes =>
    ⟨.trace, .monitor, "request queued", [client c, count "bytes" bytes]⟩
  | jobRestarted => ⟨.debug, .networkTask, "restarting in-flight task", []⟩
  | jobFailed e => ⟨.debug, .networkTask, "task body failed", [error e.message]⟩
  | jobDropped => ⟨.debug, .networkTask, "dropping running task; settling it first", []⟩
  | connectionOpened c => ⟨.debug, .transport, "connection opened", [client c]⟩
  | frameFailed c message =>
    ⟨.warn, .transport, "closing connection after frame error", [client c, error message]⟩
  | connectionClosed c => ⟨.debug, .transport, "connection closed", [client c]⟩

end Notice

end RpcDispatch.Log
