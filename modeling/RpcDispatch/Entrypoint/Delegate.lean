/-
This file defines methods that leave their requests to one job.  Each request starts the job anew,
which replaces the run that is in flight, and every run answers the request that it was started
for.
-/

import RpcDispatch.Entrypoint.Basic
import RpcDispatch.Job

namespace RpcDispatch

/-! ### The pace of a worker -/

/-- A worker takes a step, or is let through the gate at which it waits. -/
inductive Stride where
  | work
  | release

namespace Job

def stride (job : Job) : Stride → List Signal × Job
  | .work => job.workerStep?.getD ([], job)
  | .release => ([], job.release.2)

def strides (job : Job) : List Stride → List Signal × Job
  | [] => ([], job)
  | stride :: rest =>
    let (first, job) := job.stride stride
    let (later, job) := job.strides rest
    (first ++ later, job)

end Job

/-! ### The desk -/

/-- What a method keeps of its job. -/
structure Desk where
  job : Job
  /-- The request that the next start is for. -/
  next : Option (Key × Request)
  /-- The request that the current run is for. -/
  active : Option (Key × Request)
  /-- What the worker does after each operation of its owner that is still to come.  Any pace of
  the worker has a schedule. -/
  schedule : List (List Stride)

/-- A desk before the first request. -/
def Desk.clear (schedule : List (List Stride)) : Desk :=
  ⟨.idle, none, none, schedule⟩

/-- A method that leaves its requests to one job.  Its desk is a part of the state of the
application. -/
structure Delegate (σ : Type) where
  method : String
  description : String := ""
  hasPriority : Bool := false
  desk : σ → Desk
  place : Desk → σ → σ
  desk_place : ∀ placed state, desk (place placed state) = placed
  /-- What the job does for a request. -/
  body : Key → Request → Body
  /-- What the request is answered with when that succeeds. -/
  result : Key → Request → Except String Json.Value

namespace Delegate

variable {σ : Type}

def changeDesk (delegate : Delegate σ) (change : Desk → Desk) : Script σ Unit :=
  .read fun state => .perform (.write (delegate.place (change (delegate.desk state)) state))

/-- Acts on the request of the current run, if there is one. -/
def onActive (delegate : Delegate σ) (act : Key → Request → Act σ) : Script σ Unit :=
  .read fun state =>
    match (delegate.desk state).active with
    | some (key, request) => .perform (act key request)
    | none => .done ()

/-- The reaction to what is heard of the job. -/
def react (delegate : Delegate σ) : Signal → Script σ Unit
  | .started => delegate.changeDesk fun desk => { desk with active := desk.next, next := none }
  | .progressed operation amount =>
    Script.sequence [
      .perform (.switch .worker),
      delegate.onActive fun key _ => .progress key operation amount,
      .perform (.switch .service)]
  | .cancelRequested => .done ()
  | .completed => delegate.onActive fun key request => .reply key (delegate.result key request)
  | .failed error => delegate.onActive fun key _ => .error key error
  | .told value => .perform (.note value)
  | .reported notice => .perform (.log notice)

/-- Works on the job.  The worker then goes on as scheduled. -/
def operate (delegate : Delegate σ) (operation : Job → List Signal × Job) : Script σ Unit :=
  .read fun state =>
    let desk := delegate.desk state
    let (signals, job) := operation desk.job
    let (worked, job) := job.strides (desk.schedule.headD [])
    .act (.write (delegate.place { desk with job, schedule := desk.schedule.tail } state))
      (Script.sequence ((signals ++ worked).map delegate.react))

/-- The request becomes the next one, and the job starts. -/
def handle (delegate : Delegate σ) (key : Key) (request : Request) : Script σ Outcome :=
  (delegate.changeDesk fun desk => { desk with next := some (key, request) }).bind fun _ =>
    (delegate.operate fun job => job.start (delegate.body key request)).bind fun _ => .done .success

def entrypoint (delegate : Delegate σ) : Entrypoint σ where
  method := delegate.method
  description := delegate.description
  hasPriority := delegate.hasPriority
  isAsync := true
  onRequest := delegate.handle
  onCancel := delegate.operate fun job => job.cancel.2
  onDisconnect := (delegate.operate fun job => job.cancel.2).bind fun _ => .done none
  onUpdate := delegate.operate fun job => job.poll.2

end Delegate

end RpcDispatch
