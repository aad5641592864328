/-
This file defines the task manager: the queue of tasks that have not run, and the tasks that have
run and are still pending.
-/

import RpcDispatch.Task.Basic

namespace RpcDispatch

structure TaskManager (σ : Type) where
  queue : List (Task σ)
  pending : List (Task σ)

namespace TaskManager

variable {σ : Type}

def empty : TaskManager σ :=
  ⟨[], []⟩

def size (manager : TaskManager σ) : Nat :=
  manager.queue.length

def isEmpty (manager : TaskManager σ) : Bool :=
  manager.queue.isEmpty

def hasPending (manager : TaskManager σ) (exchange : Exchange σ) : Bool :=
  manager.pending.any (·.isPending exchange)

/-- The tasks of a list that are still pending.  Each one is asked in its turn. -/
def keepPending : List (Task σ) → Exchange σ → List (Task σ) × Exchange σ
  | [], exchange => ([], exchange)
  | task :: tasks, exchange =>
    let (kept, after) := keepPending tasks exchange.pause
    (if task.isPending exchange.pause then task :: kept else kept, after)

/-- Forgets the tasks that are no longer pending. -/
def prune (manager : TaskManager σ) (exchange : Exchange σ) : TaskManager σ × Exchange σ :=
  let (pending, exchange) := keepPending manager.pending exchange
  ({ manager with pending }, exchange)

/-- A task that has run is kept if it is pending. -/
def retain (pending : List (Task σ)) (task : Task σ) (exchange : Exchange σ) :
    List (Task σ) × Exchange σ :=
  (if task.isPending exchange.pause then pending ++ [task] else pending, exchange.pause)

/-- A task with priority runs now, any other waits in the queue. -/
def add (manager : TaskManager σ) (task : Task σ) (exchange : Exchange σ) :
    TaskManager σ × Exchange σ :=
  if task.hasPriority then
    let (task, exchange) := task.run (exchange.log (.runningPriority task.client task.method))
    let (pending, exchange) := retain manager.pending task exchange
    ({ manager with pending }, exchange)
  else
    ({ manager with queue := manager.queue ++ [task] },
      exchange.log (.queued task.client task.method (manager.queue.length + 1)))

/-- Runs the tasks of a queue in order. -/
def drain : (queue pending : List (Task σ)) → Exchange σ → List (Task σ) × Exchange σ
  | [], pending, exchange => (pending, exchange)
  | task :: queue, pending, exchange =>
    let (task, exchange) := task.run exchange
    let (pending, exchange) := retain pending task exchange
    drain queue pending exchange

/-- Runs every queued task. -/
def runAll (manager : TaskManager σ) (exchange : Exchange σ) : TaskManager σ × Exchange σ :=
  let (pending, exchange) := drain manager.queue manager.pending exchange
  prune ⟨[], pending⟩ exchange

/-- Disconnects the tasks of a client in order. -/
def disconnectEach (client : ClientId) : List (Task σ) → Exchange σ → List (Task σ) × Exchange σ
  | [], exchange => ([], exchange)
  | task :: tasks, exchange =>
    let (task, exchange) :=
      if task.client = client then task.disconnect exchange else (task, exchange)
    let (tasks, exchange) := disconnectEach client tasks exchange
    (task :: tasks, exchange)

/-- Disconnects the queued tasks of a client and then the pending ones.  Queued tasks stay in the
queue and do nothing when they run. -/
def disconnect (manager : TaskManager σ) (client : ClientId) (exchange : Exchange σ) :
    TaskManager σ × Exchange σ :=
  let count := (manager.queue ++ manager.pending).countP (·.client = client)
  let (queue, exchange) := disconnectEach client manager.queue exchange
  let (pending, exchange) := disconnectEach client manager.pending exchange
  let (manager, exchange) := prune ⟨queue, pending⟩ exchange
  (manager, exchange.log (.tasksDisconnected client count))

/-- Cancels the first task of a list that answers the identifier, if there is one. -/
def cancelFirst (client : ClientId) (id : Rpc.Id) :
    List (Task σ) → Exchange σ → Option (Except Rpc.Error Unit × List (Task σ) × Exchange σ)
  | [], _ => none
  | task :: tasks, exchange =>
    if task.isFor client id then
      let (outcome, task, exchange) := task.cancel exchange
      some (outcome, task :: tasks, exchange)
    else
      (cancelFirst client id tasks exchange).map fun (outcome, tasks, exchange) =>
        (outcome, task :: tasks, exchange)

/-- Reports a cancellation that took effect. -/
def reportCancel (client : ClientId) (id : Rpc.Id) (outcome : Except Rpc.Error Unit)
    (exchange : Exchange σ) : Exchange σ :=
  match outcome with
  | .ok () => exchange.log (.taskCancelled client id)
  | .error _ => exchange

/-- Cancels the task of a client that answers the identifier; the queue comes before the pending
tasks. -/
def cancel (manager : TaskManager σ) (client : ClientId) (id : Rpc.Id) (exchange : Exchange σ) :
    Except Rpc.Error Unit × TaskManager σ × Exchange σ :=
  if id.isEmpty then
    (.error (.invalidParams "Cannot cancel a task without id" []), manager, exchange)
  else
    let (manager, exchange) := manager.prune exchange
    match cancelFirst client id manager.queue exchange with
    | some (outcome, queue, exchange) =>
      (outcome, { manager with queue }, reportCancel client id outcome exchange)
    | none =>
      match cancelFirst client id manager.pending exchange with
      | some (outcome, pending, exchange) =>
        (outcome, { manager with pending }, reportCancel client id outcome exchange)
      | none =>
        (.error (.invalidParams s!"No task found with id {id.display}" []), manager, exchange)

def debugText (manager : TaskManager σ) : String :=
  "TaskManager \x7b queued: " ++ toString manager.queue.length
    ++ ", pending: " ++ toString manager.pending.length ++ " \x7d"

end TaskManager

end RpcDispatch
