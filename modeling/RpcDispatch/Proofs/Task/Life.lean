import RpcDispatch.Exchange.Basic

/-
This file says how a request task can fare.  It waits in the queue, it starts at most once, and in
the end it is gone; on the way it may be cancelled, and its client may leave.  The hooks that are
called for it are the record of these changes.
-/

namespace RpcDispatch

/-- Where a request task stands.  A task that is held by a manager waits or runs. -/
inductive Stage where
  | new
  | held (running cancelled disconnected : Bool)
  | gone
  deriving DecidableEq

/-- What can happen to a request task.  A task that runs can finish, one that waits can only be
skipped. -/
inductive Change where
  | enter
  | start
  | skip
  | finish
  | cancel
  | leave
  deriving DecidableEq

namespace Stage

/-- A change of the stage, with the hooks that it calls. -/
inductive Step (key : Key) : Change → Stage → List Hook → Stage → Prop where
  | enter : Step key .enter .new [] (.held false false false)
  | start : Step key .start (.held false false false) [.request key] (.held true false false)
  | skip (cancelled disconnected : Bool) (spent : cancelled = true ∨ disconnected = true) :
      Step key .skip (.held false cancelled disconnected) [] .gone
  | finish (cancelled disconnected : Bool) :
      Step key .finish (.held true cancelled disconnected) [] .gone
  | cancel (running disconnected : Bool) :
      Step key .cancel (.held running false disconnected) (if running then [.cancel key] else [])
        (.held running true disconnected)
  | leave (running cancelled : Bool) :
      Step key .leave (.held running cancelled false) [.disconnect key]
        (.held running cancelled true)

/-- Some of the allowed changes one after another, with all hooks that they call. -/
inductive Path (key : Key) (allowed : Change → Prop) (first : Stage) :
    List Hook → Stage → Prop where
  | refl : Path key allowed first [] first
  | tail {hooks more : List Hook} {change : Change} {middle last : Stage}
      (path : Path key allowed first hooks middle) (permitted : allowed change)
      (step : Step key change middle more last) : Path key allowed first (hooks ++ more) last

variable {key : Key} {allowed wider : Change → Prop} {change : Change}
  {first middle last : Stage} {hooks more : List Hook}

theorem Path.trans (path : Path key allowed first hooks middle)
    (later : Path key allowed middle more last) : Path key allowed first (hooks ++ more) last := by
  induction later with
  | refl =>
      rw [List.append_nil]
      exact path
  | tail _ permitted step ih =>
      rw [← List.append_assoc]
      exact .tail ih permitted step

theorem Step.path (step : Step key change first hooks last) (permitted : allowed change) :
    Path key allowed first hooks last :=
  .tail .refl permitted step

theorem Path.widen (widens : ∀ change, allowed change → wider change)
    (path : Path key allowed first hooks last) : Path key wider first hooks last := by
  induction path with
  | refl => exact .refl
  | tail _ permitted step ih => exact .tail ih (widens _ permitted) step

/-! ### How often a hook can be called -/

/-- How many calls of a hook are still possible.  A task that was cancelled or whose client has left
does not start any more. -/
def budget : Stage → Hook → Nat
  | .new, _ => 1
  | .held running cancelled disconnected, .request _ =>
    if running || cancelled || disconnected then 0 else 1
  | .held _ cancelled _, .cancel _ => if cancelled then 0 else 1
  | .held _ _ disconnected, .disconnect _ => if disconnected then 0 else 1
  | .held .., .update => 0
  | .gone, _ => 0

/-- A change takes the calls that it makes from the budget. -/
theorem Step.budget (step : Step key change first hooks last) (hook : Hook) :
    hooks.count hook + last.budget hook ≤ first.budget hook := by
  cases step with
  | enter => cases hook <;> simp [Stage.budget]
  | start =>
      cases hook <;> simp [Stage.budget, List.count_singleton]
      split <;> omega
  | skip cancelled disconnected spent => simp [Stage.budget]
  | finish cancelled disconnected => simp [Stage.budget]
  | cancel running disconnected =>
      cases running <;> cases hook <;> simp [Stage.budget, List.count_singleton]
      split <;> omega
  | leave running cancelled =>
      cases hook <;> simp [Stage.budget, List.count_singleton]
      split <;> omega

theorem Path.budget (path : Path key allowed first hooks last) (hook : Hook) :
    hooks.count hook + last.budget hook ≤ first.budget hook := by
  induction path with
  | refl => simp
  | tail _ _ step ih =>
      have spent := step.budget hook
      rw [List.count_append]
      omega

/-- In a whole life no hook is called twice. -/
theorem Path.count_le_one (path : Path key allowed .new hooks last) (hook : Hook) :
    hooks.count hook ≤ 1 := by
  have within : hooks.count hook + last.budget hook ≤ 1 := path.budget hook
  omega

/-- A hook that has no call left is not called. -/
theorem Path.count_eq_zero (path : Path key allowed first hooks last) {hook : Hook}
    (spent : first.budget hook = 0) : hooks.count hook = 0 := by
  have within := path.budget hook
  omega

/-- Only starting calls the request hook. -/
theorem Path.not_requested (path : Path key allowed first hooks last) (barred : ¬ allowed .start) :
    .request key ∉ hooks := by
  induction path with
  | refl => simp
  | tail _ permitted step ih =>
      cases step with
      | start => exact absurd permitted barred
      | enter => simpa using ih
      | skip _ _ spent => simpa using ih
      | finish => simpa using ih
      | cancel running => cases running <;> simpa using ih
      | leave => simpa using ih

/-! ### What a stage tells about the past -/

/-- Who runs was started. -/
theorem Path.requested {cancelled disconnected : Bool}
    (path : Path key allowed .new hooks (.held true cancelled disconnected)) :
    .request key ∈ hooks := by
  generalize reached : Stage.held true cancelled disconnected = last at path
  induction path generalizing cancelled disconnected with
  | refl => cases reached
  | tail _ _ step ih =>
      subst reached
      cases step with
      | start => simp
      | cancel _ disconnected => exact List.mem_append_left _ (ih rfl)
      | leave _ cancelled => exact List.mem_append_left _ (ih rfl)

/-- The hook of a task whose client is still there was not called. -/
theorem Path.stays {running cancelled : Bool}
    (path : Path key allowed .new hooks (.held running cancelled false)) :
    .disconnect key ∉ hooks := by
  have within : hooks.count (.disconnect key) + 1 ≤ 1 := path.budget (.disconnect key)
  apply List.count_eq_zero.mp
  omega

/-- The hook of a task whose client has left was called. -/
theorem Path.left {running cancelled : Bool}
    (path : Path key allowed .new hooks (.held running cancelled true)) :
    .disconnect key ∈ hooks := by
  generalize reached : Stage.held running cancelled true = last at path
  induction path generalizing running cancelled with
  | refl => cases reached
  | tail _ _ step ih =>
      subst reached
      cases step with
      | cancel running => exact List.mem_append_left _ (ih rfl)
      | leave _ cancelled => simp

/-! ### Where the allowed changes lead -/

/-- What was never entered stays so. -/
theorem Path.of_new (path : Path key allowed .new hooks last) (barred : ¬ allowed .enter) :
    hooks = [] ∧ last = .new := by
  induction path with
  | refl => exact ⟨rfl, rfl⟩
  | tail _ permitted step ih =>
      obtain ⟨rfl, rfl⟩ := ih
      cases step
      exact absurd permitted barred

/-- What is gone stays so. -/
theorem Path.of_gone (path : Path key allowed .gone hooks last) : last = .gone := by
  induction path with
  | refl => rfl
  | tail _ _ step ih =>
      subst ih
      cases step

/-- Nothing happens where nothing is allowed. -/
theorem Path.of_none (path : Path key (fun _ => False) first hooks last) :
    hooks = [] ∧ last = first := by
  cases path with
  | refl => exact ⟨rfl, rfl⟩
  | tail _ permitted _ => exact permitted.elim

/-- No step leads back to a task that was not added. -/
theorem Path.ne_new (path : Path key allowed first hooks last) (entered : first ≠ .new) :
    last ≠ .new := by
  cases path with
  | refl => exact entered
  | tail _ _ step =>
      rintro rfl
      cases step

/-- A task waits until it starts, is skipped or is left by its client, and stays cancelled. -/
theorem Path.waits {cancelled : Bool}
    (path : Path key allowed (.held false cancelled false) hooks last)
    (barred : ¬ allowed .start ∧ ¬ allowed .skip ∧ ¬ allowed .leave) :
    ∃ now, last = .held false now false ∧ (cancelled = true → now = true) := by
  induction path with
  | refl => exact ⟨cancelled, rfl, id⟩
  | tail _ permitted step ih =>
      obtain ⟨now, rfl, kept⟩ := ih
      cases step with
      | start => exact absurd permitted barred.1
      | skip _ _ spent => exact absurd permitted barred.2.1
      | cancel => exact ⟨true, rfl, fun _ => rfl⟩
      | leave => exact absurd permitted barred.2.2

end Stage

end RpcDispatch
