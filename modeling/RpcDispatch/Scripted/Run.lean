/-
This file defines the jobs of scripted entrypoints.  Each run answers the request that it was
started for: with its progress, and then with its outcome.
-/

import RpcDispatch.Scripted.Station

namespace RpcDispatch.Scripted

/-- An instruction of a job's body. -/
inductive Instruction where
  | progress (operation : String) (amount : Float)
  | tryProgress (operation : String) (amount : Float)
  | gate
  | lenientGate
  | check
  | fail (error : Rpc.Error)
  | panic (text : String)

/-- The body that follows the instructions and succeeds at their end. -/
def bodyOf (method : String) : List Instruction → Body
  | [] => .finish .success
  | .progress operation amount :: rest =>
    .progress operation amount fun
      | .ok () => bodyOf method rest
      | .error error => .finish (.failure error)
  | .tryProgress operation amount :: rest =>
    .progress operation amount fun outcome =>
      .tell (.array [.string "progress_result", .string method, shownOutcome outcome])
        (bodyOf method rest)
  | .gate :: rest =>
    .gate fun cancelled =>
      if cancelled then .finish (.failure .taskCancelled) else bodyOf method rest
  | .lenientGate :: rest => .gate fun _ => bodyOf method rest
  | .check :: rest =>
    .check fun cancelled =>
      .tell (.array [.string "is_cancelled", .string method, .bool cancelled])
        (bodyOf method rest)
  | .fail error :: _ => .finish (.failure error)
  | .panic text :: _ => .finish (.panic text)

/-- Acts on the request of the current run, if there is one. -/
def onActive (method : String) (act : Key → Act App) : AppScript Unit := do
  match ((← Script.state).station method).active with
  | some key => .perform (act key)
  | none => return

/-- The reaction of a handler to what it hears of its job. -/
def react (method : String) : Signal → AppScript Unit
  | .started => do
    note [.string "on_start", .string method]
    changeStation method fun station => { station with active := station.next, next := none }
  | .progressed operation amount => do
    .perform (.switch .worker)
    note [.string "on_progress", .string method, .string operation, .string (floatText amount)]
    onActive method fun key => .progress key operation amount
    .perform (.switch .service)
  | .cancelRequested => note [.string "on_cancel", .string method]
  | .completed => do
    note [.string "on_complete", .string method]
    onActive method fun key => .reply key (.ok (.object [("done", .bool true)]))
  | .failed error => do
    note [.string "on_error", .string method, shownError error]
    onActive method fun key => .error key error
  | .told value => .perform (.note value)
  | .reported notice => .perform (.log notice)

/-- Keeps the job and reacts to its signals in order. -/
def settleJob (method : String) (signals : List Signal) (job : Job) : AppScript Unit := do
  changeStation method fun station => { station with job := some job }
  Script.sequence (signals.map (react method))

/-- Works on the job of a method, whose worker then goes on as far as it can.  False stands for a
method without job. -/
def withJob (method : String) (operation : Job → Bool × List Signal × Job) : AppScript Bool := do
  match ((← Script.state).station method).job with
  | none => return false
  | some job =>
    let (result, signals, job) := operation job
    let (worked, job) := job.advance
    settleJob method (signals ++ worked) job
    return result

def cancelJob (method : String) : AppScript Bool :=
  withJob method Job.cancel

def pollJob (method : String) : AppScript Bool :=
  withJob method Job.poll

def waitJob (method : String) : AppScript Bool :=
  withJob method Job.wait

/-- Lets the worker through its gate. -/
def releaseJob (method : String) : AppScript Bool :=
  withJob method fun job =>
    let (released, job) := job.release
    (released, [], job)

/-- Starts the next body. -/
def startJob (method : String) : AppScript Unit := do
  let station := (← Script.state).station method
  let body := station.bodies.headD (.finish .success)
  changeStation method fun station =>
    { station with bodies := if station.bodies.length ≤ 1 then station.bodies
                             else station.bodies.tail }
  let _ ← withJob method fun job =>
    let (signals, job) := job.start body
    (true, signals, job)

/-- Gives the job up. -/
def dropJob (method : String) : AppScript Unit := do
  match ((← Script.state).station method).job with
  | none => return
  | some job =>
    changeStation method fun station => { station with job := none }
    Script.sequence (job.drop.map (react method))

end RpcDispatch.Scripted
