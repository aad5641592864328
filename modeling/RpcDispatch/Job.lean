/-
This file defines jobs: work that an entrypoint leaves to a worker.  The worker looks for
cancellation only where its body reports progress or waits, and its outcome is delivered when the
owner of the job collects it.
-/

import RpcDispatch.Log.Notice

namespace RpcDispatch

/-- How the body of a job ends. -/
inductive Ending where
  | success
  | failure (error : Rpc.Error)
  | panic (text : String)

/-- The body of a job.  At a gate it waits until it is let through or cancelled; it is told which
of the two happened. -/
inductive Body where
  | finish (ending : Ending)
  | progress (operation : String) (amount : Float) (next : Except Rpc.Error Unit → Body)
  | check (next : Bool → Body)
  | tell (value : Json.Value) (next : Body)
  | gate (next : Bool → Body)

/-- What the owner of a job hears of it. -/
inductive Signal where
  | started
  | progressed (operation : String) (amount : Float)
  | cancelRequested
  | completed
  | failed (error : Rpc.Error)
  | told (value : Json.Value)
  | reported (notice : Log.Notice)

/-- A worker speaks for itself, everything else comes from the owner's thread. -/
def Signal.isFromWorker : Signal → Bool
  | .progressed _ _ => true
  | .told _ => true
  | _ => false

namespace Body

/-- One step of a worker, if it is neither finished nor waiting. -/
def step (cancelled : Bool) : Body → Option (List Signal × Body)
  | .finish _ => none
  | .progress operation amount next =>
    if cancelled then some ([], next (.error .taskCancelled))
    else some ([.progressed operation amount], next (.ok ()))
  | .check next => some ([], next cancelled)
  | .tell value next => some ([.told value], next)
  | .gate next => if cancelled then some ([], next true) else none

/-- The steps of a worker until it is finished or waits. -/
def advance (cancelled : Bool) : Body → List Signal × Body
  | .finish ending => ([], .finish ending)
  | .progress operation amount next =>
    if cancelled then (next (.error .taskCancelled)).advance cancelled
    else
      let (signals, rest) := (next (.ok ())).advance cancelled
      (.progressed operation amount :: signals, rest)
  | .check next => (next cancelled).advance cancelled
  | .tell value next =>
    let (signals, rest) := next.advance cancelled
    (.told value :: signals, rest)
  | .gate next => if cancelled then (next true).advance cancelled else ([], .gate next)

/-- The steps of a worker up to its end, where every gate lets it through. -/
def conclude (cancelled : Bool) : Body → List Signal × Ending
  | .finish ending => ([], ending)
  | .progress operation amount next =>
    if cancelled then (next (.error .taskCancelled)).conclude cancelled
    else
      let (signals, ending) := (next (.ok ())).conclude cancelled
      (.progressed operation amount :: signals, ending)
  | .check next => (next cancelled).conclude cancelled
  | .tell value next =>
    let (signals, ending) := next.conclude cancelled
    (.told value :: signals, ending)
  | .gate next => (next cancelled).conclude cancelled

end Body

inductive JobState where
  | idle
  | running
  | completed
  | cancelled
  | errored
  deriving DecidableEq

def JobState.name : JobState → String
  | .idle => "Idle"
  | .running => "Running"
  | .completed => "Completed"
  | .cancelled => "Cancelled"
  | .errored => "Errored"

/-- A job has at most one body in flight. -/
structure Job where
  worker : Option Body
  cancelled : Bool
  state : JobState

namespace Job

/-- A job that was never started. -/
def idle : Job :=
  ⟨none, false, .idle⟩

/-- A body is in flight, or its outcome has not been collected. -/
def isRunning (job : Job) : Bool :=
  job.worker.isSome

/-! ### The worker -/

/-- One step of the worker, if it can take one. -/
def workerStep? (job : Job) : Option (List Signal × Job) :=
  (job.worker.bind (·.step job.cancelled)).map fun (signals, body) =>
    (signals, { job with worker := some body })

/-- The worker goes on as far as it can. -/
def advance (job : Job) : List Signal × Job :=
  match job.worker with
  | none => ([], job)
  | some body =>
    let (signals, body) := body.advance job.cancelled
    (signals, { job with worker := some body })

/-- Lets the worker through the gate that it waits at; false if there is none. -/
def release (job : Job) : Bool × Job :=
  match job.worker with
  | some (.gate next) => (true, { job with worker := some (next job.cancelled) })
  | _ => (false, job)

/-! ### The owner -/

/-- A job that was cancelled fails as cancelled, however its body ended. -/
def deliver (job : Job) (ending : Ending) : List Signal × Job :=
  if job.cancelled then
    ([.failed .taskCancelled], { job with worker := none, state := .cancelled })
  else
    match ending with
    | .success => ([.completed], { job with worker := none, state := .completed })
    | .failure error =>
      ([.reported (.jobFailed error), .failed error],
        { job with worker := none, state := .errored })
    | .panic text =>
      let error := Rpc.Error.internal ("Task body panicked: " ++ text)
      ([.reported (.jobFailed error), .failed error],
        { job with worker := none, state := .errored })

/-- Delivers the outcome of a body that has ended; false if there is none. -/
def poll (job : Job) : Bool × List Signal × Job :=
  match job.worker with
  | some (.finish ending) => (true, job.deliver ending)
  | _ => (false, [], job)

/-- Waits for the body to end and delivers its outcome; false if nothing runs. -/
def wait (job : Job) : Bool × List Signal × Job :=
  match job.worker with
  | none => (false, [], job)
  | some body =>
    let (worked, ending) := body.conclude job.cancelled
    let (delivered, job) := job.deliver ending
    (true, worked ++ delivered, job)

/-- Asks the body to stop; false if nothing runs or it has been asked before. -/
def cancel (job : Job) : Bool × List Signal × Job :=
  if job.isRunning && !job.cancelled then
    (true, [.cancelRequested], { job with cancelled := true })
  else (false, [], job)

/-- Cancels the body and waits for it. -/
def settle (job : Job) : List Signal × Job :=
  let (_, asked, job) := job.cancel
  let (_, settled, job) := job.wait
  (asked ++ settled, job)

/-- Starts a body, after the outcome of an earlier one has been delivered. -/
def start (job : Job) (body : Body) : List Signal × Job :=
  let (settled, job) :=
    if job.isRunning then
      let (settled, job) := job.settle
      (.reported .jobRestarted :: settled, job)
    else ([], job)
  (settled ++ [.started], { job with worker := some body, cancelled := false, state := .running })

/-- The owner of a body hears its outcome even when it gives the job up. -/
def drop (job : Job) : List Signal :=
  if job.isRunning then .reported .jobDropped :: job.settle.1 else []

def debugText (job : Job) : String :=
  "NetworkTask \x7b state: " ++ job.state.name ++ ", cancelled: "
    ++ (if job.cancelled then "true" else "false") ++ ", .. \x7d"

end Job

end RpcDispatch
