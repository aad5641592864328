import RpcDispatch.Job
import Mathlib.Data.List.Basic

/-
This file says what a body does on its way to its end.  A path is the part of the way that a
worker goes while the request to stop is there or not, with the callbacks that come of it.
-/

namespace RpcDispatch

/-- The owner's callbacks.  Reports and what a body tells are none. -/
def Signal.isCallback : Signal → Bool
  | .told _ => false
  | .reported _ => false
  | _ => true

/-- The callbacks among some signals. -/
def callbacks (signals : List Signal) : List Signal :=
  signals.filter Signal.isCallback

@[simp] theorem callbacks_nil : callbacks [] = [] := rfl

@[simp] theorem callbacks_append (first second : List Signal) :
    callbacks (first ++ second) = callbacks first ++ callbacks second :=
  List.filter_append first second

/-- The way of a body from one checkpoint to another while it is asked to stop, or while it is
not, with the progress it reports. -/
inductive Body.Path (cancelled : Bool) : Body → List Signal → Body → Prop where
  | refl (body : Body) : Path cancelled body [] body
  | report {operation : String} {amount : Float} {next : Except Rpc.Error Unit → Body}
      {signals : List Signal} {rest : Body} (free : cancelled = false)
      (path : Path cancelled (next (.ok ())) signals rest) :
      Path cancelled (.progress operation amount next)
        (.progressed operation amount :: signals) rest
  | refuse {operation : String} {amount : Float} {next : Except Rpc.Error Unit → Body}
      {signals : List Signal} {rest : Body} (asked : cancelled = true)
      (path : Path cancelled (next (.error .taskCancelled)) signals rest) :
      Path cancelled (.progress operation amount next) signals rest
  | check {next : Bool → Body} {signals : List Signal} {rest : Body}
      (path : Path cancelled (next cancelled) signals rest) :
      Path cancelled (.check next) signals rest
  | tell {value : Json.Value} {next : Body} {signals : List Signal} {rest : Body}
      (path : Path cancelled next signals rest) :
      Path cancelled (.tell value next) signals rest
  | gate {next : Bool → Body} {signals : List Signal} {rest : Body}
      (path : Path cancelled (next cancelled) signals rest) :
      Path cancelled (.gate next) signals rest

namespace Body

variable {cancelled : Bool} {first middle last : Body} {before after : List Signal}

theorem Path.trans (path : Path cancelled first before middle)
    (rest : Path cancelled middle after last) :
    Path cancelled first (before ++ after) last := by
  induction path with
  | refl body => exact rest
  | report free _ ih => exact .report free (ih rest)
  | refuse asked _ ih => exact .refuse asked (ih rest)
  | check _ ih => exact .check (ih rest)
  | tell _ ih => exact .tell (ih rest)
  | gate _ ih => exact .gate (ih rest)

/-- A body that is asked to stop reports no progress. -/
theorem Path.quiet (path : Path true first before last) : before = [] := by
  induction path with
  | refl body => rfl
  | report free _ _ => cases free
  | refuse asked _ ih => exact ih
  | check _ ih => exact ih
  | tell _ ih => exact ih
  | gate _ ih => exact ih

/-- One step of a worker is a path. -/
theorem step_path {body next : Body} {signals : List Signal}
    (stepped : body.step cancelled = some (signals, next)) :
    Path cancelled body (callbacks signals) next := by
  cases body with
  | finish ending => cases stepped
  | progress operation amount rest =>
      cases cancelled with
      | true =>
          cases stepped
          exact .refuse rfl (.refl _)
      | false =>
          cases stepped
          exact .report rfl (.refl _)
  | check rest =>
      cases stepped
      exact .check (.refl _)
  | tell value rest =>
      cases stepped
      exact .tell (.refl _)
  | gate rest =>
      cases cancelled with
      | true =>
          cases stepped
          exact .gate (.refl _)
      | false => cases stepped

/-- The steps of a worker until it is finished or waits are a path. -/
theorem advance_path (body : Body) :
    Path cancelled body (callbacks (body.advance cancelled).1) (body.advance cancelled).2 := by
  induction body with
  | finish ending => exact .refl _
  | progress operation amount next ih =>
      cases cancelled with
      | true => exact .refuse rfl (ih _)
      | false => exact .report rfl (ih _)
  | check next ih => exact .check (ih cancelled)
  | tell value next ih => exact .tell ih
  | gate next ih =>
      cases cancelled with
      | true => exact .gate (ih true)
      | false => exact .refl _

/-- The steps of a worker up to its end are a path. -/
theorem conclude_path (body : Body) :
    Path cancelled body (callbacks (body.conclude cancelled).1)
      (.finish (body.conclude cancelled).2) := by
  induction body with
  | finish ending => exact .refl _
  | progress operation amount next ih =>
      cases cancelled with
      | true => exact .refuse rfl (ih _)
      | false => exact .report rfl (ih _)
  | check next ih => exact .check (ih cancelled)
  | tell value next ih => exact .tell ih
  | gate next ih => exact .gate (ih cancelled)

end Body

end RpcDispatch
