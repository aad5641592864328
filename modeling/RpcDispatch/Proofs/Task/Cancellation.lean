import RpcDispatch.Proofs.Task.Sparing

/-
This file shows that a request task runs once at most and that its cancellation is honoured, in
every history of a manager.
-/

namespace RpcDispatch

open Exchange (Leads Grows Untouched)
open Stage (Path)

variable {σ : Type} {valid : σ → Prop} {moment : Moment σ} {task : RequestTask σ}

/-! ### Operations that keep a task from running -/

namespace Moment

/-- The operation cancels the task with success. -/
def Cancels (moment : Moment σ) (task : RequestTask σ) (client : ClientId) (id : Rpc.Id) : Prop :=
  (moment.manager.cancel client id moment.exchange).1 = .ok () ∧
    ∃ held, moment.manager.target? client id moment.exchange = some (.request held) ∧
      held.key = task.key

/-- The operation cancels the task with success, or disconnects its client while it is queued. -/
def Forbids (moment : Moment σ) (task : RequestTask σ) : Operation σ → Prop
  | .cancel client id => moment.Cancels task client id
  | .disconnect client => task.request.client = client ∧
      ∃ held, .request held ∈ moment.manager.queue ∧ held.key = task.key
  | _ => False

/-- Only a task that was added can be cancelled or disconnected. -/
theorem Orderly.known_of_forbids (orderly : moment.Orderly) {operation : Operation σ}
    (forbids : moment.Forbids task operation) :
    ¬ ∀ other ∈ moment.added, other.key ≠ task.key := by
  intro strange
  have absent (ran : Bool) {held : RequestTask σ}
      (member : .request held ∈ moment.manager.tasks ran) (key : held.key = task.key) : False := by
    obtain ⟨_, _, held, _⟩ := (orderly.unknown task strange).1.of_mem member key
    cases held
  cases operation with
  | cancel client id =>
      obtain ⟨_, held, target, key⟩ := forbids
      obtain ⟨ran, member⟩ := TaskManager.target?_mem target
      exact absent ran member key
  | disconnect client =>
      obtain ⟨_, held, queued, key⟩ := forbids
      exact absent false queued key
  | _ => exact forbids

/-- After such an operation no call of the request hook is left, and the operation makes none. -/
theorem forbids_spends {operation : Operation σ} {stage next : Stage} {hooks : List Hook}
    (forbids : moment.Forbids task operation) (stands : Stands task stage moment.manager)
    (path : Path task.key (operation.Changes task) stage hooks next)
    (there : Stands task next (moment.step operation).manager) :
    next.budget (.request task.key) = 0 ∧ .request task.key ∉ hooks := by
  cases operation with
  | cancel client id =>
      obtain ⟨succeeds, held, target, key⟩ := forbids
      obtain ⟨running, disconnected, rfl⟩ :=
        TaskManager.cancel_marks there succeeds target key
      exact ⟨by simp [Stage.budget], path.not_requested (by simp [Operation.Changes])⟩
  | disconnect client =>
      obtain ⟨own, held, queued, key⟩ := forbids
      have listed : .request held ∈ moment.manager.tasks false := queued
      obtain ⟨cancelled, disconnected, _, rfl⟩ := stands.of_mem listed key
      obtain rfl : (task.flagged false cancelled disconnected).request.client = client := own
      obtain ⟨cancelled, rfl⟩ := TaskManager.disconnect_marks there queued key
      exact ⟨by simp [Stage.budget], path.not_requested (by simp [Operation.Changes])⟩
  | _ => exact forbids.elim

/-- From such an operation on, the request hook of the task is never called. -/
theorem Orderly.barred (orderly : moment.Orderly) {operation : Operation σ}
    {late : List (Operation σ)} (admits : moment.AdmitsAll (operation :: late))
    (known : task ∈ moment.added) (forbids : moment.Forbids task operation) :
    (moment.after (operation :: late)).exchange.calls.count (.request task.key) =
      moment.exchange.calls.count (.request task.key) := by
  obtain ⟨stage, _, stands, _⟩ := orderly.known task known
  obtain ⟨hooks, next, path, there, calls⟩ :=
    moment.step_evolves operation (admits.1.apart known) stage stands
  obtain ⟨spent, silent⟩ := forbids_spends forbids stands path there
  obtain ⟨more, last, later, _, recalled⟩ :=
    after_evolves admits.2 (moment.mem_step_added operation known) next there
  have own : (Hook.request task.key).key? = some task.key := rfl
  have all : (moment.after (operation :: late)).exchange.callsFor task.key =
      moment.exchange.callsFor task.key ++ hooks ++ more :=
    recalled.trans (congrArg (· ++ more) calls)
  rw [← Exchange.count_callsFor _ own, all, List.count_append, List.count_append,
    List.count_eq_zero.mpr silent, later.count_eq_zero spent, Exchange.count_callsFor _ own]
  rfl

/-! ### The cancel hook -/

/-- Asking the pending tasks changes nothing when no other thread has a turn to come. -/
theorem keepPending_alone {tasks : List (Task σ)} {exchange : Exchange σ}
    (alone : exchange.others = []) : (TaskManager.keepPending tasks exchange).2 = exchange := by
  have still : exchange.pause = exchange := by
    rw [Exchange.pause, alone]
  induction tasks with
  | nil => rfl
  | cons first tasks ih =>
      change (TaskManager.keepPending tasks exchange.pause).2 = exchange
      rw [still]
      exact ih

/-- Calling the cancel hook of a task is the first thing that is done and reported. -/
theorem callCancel_first (task : RequestTask σ) (client : ClientId) (id : Rpc.Id)
    (result : Except Rpc.Error Unit) (exchange : Exchange σ) :
    exchange.trace ++ [.called task.entrypoint.method (.cancel task.key)] <+:
      (TaskManager.reportCancel client id result
        (exchange.callCancel task.entrypoint task.key)).trace := by
  have hooked : Leads anyKey anyHook
      (exchange.record (.called task.entrypoint.method (.cancel task.key)))
      (exchange.callCancel task.entrypoint task.key) :=
    task.entrypoint.onCancel.run_leads _ (Script.closesOnly_anyKey _)
  have reported := hooked.trans (TaskManager.reportCancel_leads client id result _)
  exact reported.grows.trace (Exchange.othersCloseOnly_anyKey _)

/-- The cancel hook of a task was called by an operation: it cancels the identifier of the request,
the task was in flight when it began, and if no other thread comes between, then the call is the
first thing that it does. -/
structure Stops (moment : Moment σ) (task : RequestTask σ) (operation : Operation σ) : Prop where
  cancels : operation = .cancel task.request.client task.request.id
  flying : InFlight task moment.exchange
  first : moment.exchange.others = [] →
    moment.exchange.trace ++ [.called task.entrypoint.method (.cancel task.key)] <+:
      (moment.step operation).exchange.trace

theorem Orderly.stops (orderly : moment.Orderly) {operation : Operation σ}
    (member : task ∈ moment.added ∨ ∀ other ∈ moment.added, other.key ≠ task.key)
    (called : (moment.step operation).exchange.calls.count (.cancel task.key) ≠
      moment.exchange.calls.count (.cancel task.key)) : moment.Stops task operation := by
  have own : (Hook.cancel task.key).key? = some task.key := rfl
  obtain ⟨client, id, rfl⟩ : ∃ client id, operation = .cancel client id := by
    by_contra other
    push Not at other
    exact called (moment.step_count_cancel operation task.key other)
  have changed : (moment.step (.cancel client id)).exchange.callsFor task.key ≠
      moment.exchange.callsFor task.key := by
    intro same
    apply called
    rw [← Exchange.count_callsFor _ own, same, Exchange.count_callsFor _ own]
  rcases member with known | strange
  · obtain ⟨stage, _, stands, path⟩ := orderly.known task known
    obtain ⟨disconnected, rfl, rfl, rfl, pends, outcome⟩ :=
      TaskManager.cancel_called stands changed
    obtain ⟨_, stays, isAsync, expected, unanswered⟩ :=
      ((task.flagged true false disconnected).isPending_iff _).mp pends
    obtain rfl : disconnected = false := stays
    refine ⟨rfl, ⟨isAsync, expected, ?_, ?_, unanswered⟩, fun alone => ?_⟩
    · exact (Exchange.mem_callsFor _ rfl).mp path.requested
    · exact fun left => path.stays ((Exchange.mem_callsFor _ rfl).mpr left)
    · have asked : (moment.manager.prune moment.exchange).2 = moment.exchange :=
        keepPending_alone alone
      change _ <+: (moment.manager.cancel _ _ moment.exchange).2.2.trace
      rw [outcome, asked]
      exact callCancel_first task _ _ _ moment.exchange
  · exact absurd (step_new (orderly.unknown task strange).1 (.cancel client id) nofun).2 changed

/-! ### Waiting for the queue to be drained -/

end Moment

/-- An operation that leaves a request alone.  A task that it adds may still be the task of the
request. -/
def Operation.Spares (valid : σ → Prop) (key : Key) : Operation σ → Prop
  | .act step => step.Spares valid key
  | .add task => task.Spares valid key
  | .enroll _ => True
  | .runAll => True
  | .cancel _ _ => True
  | .disconnect _ => True

namespace Moment

/-- The request of the task is untouched, and all tasks of the manager leave it alone. -/
abbrev Undisturbed (valid : σ → Prop) (key : Key) (moment : Moment σ) : Prop :=
  TaskManager.Undisturbed valid key moment.state

theorem undisturbed_start {key : Key} {state : σ} {senders : ClientId → Nat → Option SendFault}
    {others : List (List (Act σ))} (free : valid state)
    (spare : ∀ acts ∈ others, ∀ act ∈ acts, act.Spares valid key) :
    (start state senders others).Undisturbed valid key where
  untouched := ⟨free, spare, rfl, rfl, rfl⟩
  spared := by
    rintro (_ | _) task member
    · cases member
    · cases member

/-- An operation that spares the request leaves it undisturbed, unless it runs or disconnects the
task of the request. -/
theorem step_undisturbed {stage : Stage} {operation : Operation σ}
    (undisturbed : moment.Undisturbed valid task.key)
    (stands : Stands task stage moment.manager)
    (spares : operation.Spares valid task.key)
    (other : ∀ added, operation.added? = some added → added.key ≠ task.key)
    (undrained : operation = .runAll → stage = .new)
    (stays : operation = .disconnect task.request.client → stage = .new) :
    (moment.step operation).Undisturbed valid task.key := by
  cases operation with
  | enroll request => exact ⟨undisturbed.untouched.enroll request, undisturbed.spared⟩
  | act act => exact ⟨undisturbed.untouched.perform spares, undisturbed.spared⟩
  | add added =>
      apply TaskManager.Undisturbed.add undisturbed spares
      left
      cases added with
      | request added => exact Task.form?_request_eq_none.mpr (other added rfl)
      | chunk _ => rfl
      | external _ => rfl
  | runAll =>
      obtain rfl := undrained rfl
      exact TaskManager.Undisturbed.runAll undisturbed (stands false)
  | cancel client id => exact TaskManager.Undisturbed.cancel undisturbed client id
  | disconnect client =>
      apply TaskManager.Undisturbed.disconnect undisturbed client
      intro ran held member own
      by_contra form
      obtain ⟨form, found⟩ := Option.ne_none_iff_exists'.mp form
      obtain ⟨rfl, key⟩ := Task.form?_eq_some.mp found
      obtain ⟨cancelled, disconnected, rfl, rfl⟩ := stands.of_mem member key
      obtain rfl : task.request.client = client := own
      cases stays rfl

/-- While no task of the request was added, sparing it leaves it undisturbed. -/
theorem Orderly.undisturbed_unknown (orderly : moment.Orderly)
    (undisturbed : moment.Undisturbed valid task.key) {operations : List (Operation σ)}
    (admits : moment.AdmitsAll operations)
    (spares : ∀ operation ∈ operations, operation.Spares valid task.key)
    (strange : ∀ other ∈ (moment.after operations).added, other.key ≠ task.key) :
    (moment.after operations).Undisturbed valid task.key := by
  induction operations generalizing moment with
  | nil => exact undisturbed
  | cons operation operations ih =>
      have kept (other : RequestTask σ) (member : other ∈ (moment.step operation).added) :
          other.key ≠ task.key := strange other (mem_after_added _ operations member)
      have before := (orderly.unknown task fun other member =>
        kept other (moment.mem_step_added operation member)).1
      have new (added : RequestTask σ) (entered : operation.added? = some added) :
          added.key ≠ task.key := kept added (by simp [Moment.step, entered])
      have first := step_undisturbed undisturbed before (spares operation List.mem_cons_self) new
        (fun _ => rfl) (fun _ => rfl)
      exact ih (orderly.step admits.1) first admits.2
        (fun later member => spares later (List.mem_cons_of_mem _ member)) strange

/-- While a task waits, sparing its request leaves it undisturbed.  The task goes on waiting, and
it stays cancelled once it is. -/
theorem waits_undisturbed {cancelled : Bool} {operations : List (Operation σ)}
    (undisturbed : moment.Undisturbed valid task.key) (known : task ∈ moment.added)
    (stands : Stands task (.held false cancelled false) moment.manager)
    (admits : moment.AdmitsAll operations)
    (spares : ∀ operation ∈ operations, operation.Spares valid task.key)
    (undrained : .runAll ∉ operations)
    (stays : .disconnect task.request.client ∉ operations) :
    (moment.after operations).Undisturbed valid task.key ∧ ∃ now,
      Stands task (.held false now false) (moment.after operations).manager ∧
        (cancelled = true → now = true) := by
  induction operations generalizing moment cancelled with
  | nil => exact ⟨undisturbed, cancelled, stands, id⟩
  | cons operation operations ih =>
      simp only [List.mem_cons, not_or] at undrained stays
      have other := admits.1.apart known
      have first := step_undisturbed undisturbed stands (spares operation List.mem_cons_self) other
        (fun same => absurd same.symm undrained.1) (fun same => absurd same.symm stays.1)
      obtain ⟨hooks, next, path, there, _⟩ := moment.step_evolves operation other _ stands
      have barred : ¬ operation.Changes task .start ∧ ¬ operation.Changes task .skip ∧
          ¬ operation.Changes task .leave := by
        cases operation with
        | runAll => exact absurd rfl undrained.1
        | disconnect client =>
            have apart : task.request.client ≠ client := fun same => stays.1 (by rw [same])
            simp [Operation.Changes, apart]
        | _ => simp [Operation.Changes]
      obtain ⟨now, rfl, kept⟩ := path.waits barred
      obtain ⟨after, last, final, still⟩ := ih first (moment.mem_step_added operation known) there
        admits.2 (fun later member => spares later (List.mem_cons_of_mem _ member)) undrained.2
        stays.2
      exact ⟨after, last, final, fun marked => still (kept marked)⟩

/-! ### Histories -/

end Moment

/-- The answer of a task that was cancelled before it ran. -/
def RequestTask.cancelledAnswer (task : RequestTask σ) : Delivery :=
  ⟨.answer task.key, task.request.client, Rpc.errorText task.request.id .taskCancelled⟩

namespace Moment

/-- A request is left alone from the start on: nobody was given it, and no valid state of the
application holds it. -/
structure Unshared (valid : σ → Prop) (key : Key) (begin : Moment σ)
    (operations : List (Operation σ)) : Prop where
  state : valid begin.exchange.state
  others : ∀ acts ∈ begin.exchange.others, ∀ act ∈ acts, act.Spares valid key
  spares : ∀ operation ∈ operations, operation.Spares valid key

/-- After the early operations the task is added and waits.  While it waits it is cancelled with
success, its client does not leave, and the queue is not drained. -/
structure Withdrawn (begin : Moment σ) (task : RequestTask σ)
    (early waiting : List (Operation σ)) : Prop where
  queued : task.entrypoint.hasPriority = false
  undrained : .runAll ∉ waiting
  stays : .disconnect task.request.client ∉ waiting
  cancelled : ∃ first client id second, waiting = first ++ .cancel client id :: second ∧
    (begin.after (early ++ .add (.request task) :: first)).Cancels task client id

/-- What holds of a request task in a history. -/
structure Honours (begin : Moment σ) (history : List (Operation σ)) (task : RequestTask σ) :
    Prop where
  /-- The request hook is called once at most. -/
  runs_once : (begin.after history).exchange.calls.count (.request task.key) ≤ 1
  /-- It is not called any more from an operation on that cancels the task with success, or that
  disconnects its client while it is queued. -/
  barred : ∀ early operation late, history = early ++ operation :: late →
    (begin.after early).Forbids task operation →
      (begin.after history).exchange.calls.count (.request task.key) =
        (begin.after early).exchange.calls.count (.request task.key)
  /-- A task that is cancelled while it waits, and whose client does not leave before the queue is
  drained, is answered as cancelled: not before it is drained, then, and never again. -/
  answered : ∀ valid early waiting late,
    history = early ++ .add (.request task) :: (waiting ++ .runAll :: late) →
    begin.Withdrawn task early waiting →
    begin.Unshared valid task.key (early ++ .add (.request task) :: waiting) →
      let drained := begin.after (early ++ .add (.request task) :: waiting)
      drained.exchange.answersTo task.key = [] ∧
        (drained.step .runAll).exchange.answersTo task.key = [task.cancelledAnswer] ∧
        (begin.after history).exchange.answersTo task.key = [task.cancelledAnswer]
  /-- The cancel hook is called once at most. -/
  cancels_once : (begin.after history).exchange.calls.count (.cancel task.key) ≤ 1
  /-- It is only called while the task is in flight, and so not answered. -/
  stops : ∀ early operation late, history = early ++ operation :: late →
    ((begin.after early).step operation).exchange.calls.count (.cancel task.key) ≠
      (begin.after early).exchange.calls.count (.cancel task.key) →
      (begin.after early).Stops task operation
  /-- The disconnect hook is called once at most. -/
  disconnects_once : (begin.after history).exchange.calls.count (.disconnect task.key) ≤ 1

/-- A task that was cancelled with success expects an answer. -/
theorem Cancels.expected {client : ClientId} {id : Rpc.Id} {stage : Stage}
    (cancels : moment.Cancels task client id) (stands : Stands task stage moment.manager) :
    task.request.isNotification = false := by
  obtain ⟨succeeds, held, target, key⟩ := cancels
  obtain ⟨ran, member⟩ := TaskManager.target?_mem target
  obtain ⟨cancelled, disconnected, _, rfl⟩ := stands.of_mem member key
  have named : task.request.id = id := (TaskManager.target?_named target).2
  change task.request.id.isEmpty = false
  rw [named]
  exact TaskManager.cancel_named succeeds

/-- The drain of the queue answers a cancelled task that waits in it. -/
theorem step_runAll_answers (undisturbed : moment.Undisturbed valid task.key)
    (stands : Stands task (.held false true false) moment.manager)
    (enrolled : moment.exchange.requests[task.key]? = some task.request)
    (expected : task.request.isNotification = false) :
    (moment.step .runAll).exchange.isAnswered task.key = true ∧
      (moment.step .runAll).exchange.answersTo task.key = [task.cancelledAnswer] := by
  obtain ⟨answered, answers⟩ :=
    TaskManager.drain_answers_cancelled undisturbed stands enrolled expected
  have pruned : Leads anyKey anyHook
      (TaskManager.drain moment.manager.queue moment.manager.pending moment.exchange).2
      (moment.step .runAll).exchange := TaskManager.keepPending_leads _ _
  have within := Exchange.othersCloseOnly_anyKey
    (TaskManager.drain moment.manager.queue moment.manager.pending moment.exchange).2
  exact ⟨pruned.answered within answered,
    (pruned.grows.answersTo within answered).trans answers⟩

/-- A task that is cancelled while it waits stays so until the queue is drained. -/
theorem waits_cancelled {first second : List (Operation σ)} {client : ClientId} {id : Rpc.Id}
    (undisturbed : moment.Undisturbed valid task.key) (known : task ∈ moment.added)
    (stands : Stands task (.held false false false) moment.manager)
    (admits : moment.AdmitsAll (first ++ .cancel client id :: second))
    (spares : ∀ operation ∈ first ++ .cancel client id :: second,
      operation.Spares valid task.key)
    (undrained : .runAll ∉ first ++ .cancel client id :: second)
    (stays : .disconnect task.request.client ∉ first ++ .cancel client id :: second)
    (cancels : (moment.after first).Cancels task client id) :
    (moment.after (first ++ .cancel client id :: second)).Undisturbed valid task.key ∧
      Stands task (.held false true false)
        (moment.after (first ++ .cancel client id :: second)).manager ∧
      task.request.isNotification = false := by
  simp only [List.mem_append, List.mem_cons, not_or, or_imp, forall_and, forall_eq]
    at undrained stays spares
  obtain ⟨early, here, late⟩ := admits.split
  obtain ⟨before, marked, waits, _⟩ :=
    waits_undisturbed undisturbed known stands early spares.1 undrained.1 stays.1
  have listed := mem_after_added moment first known
  have single : (moment.after first).AdmitsAll [.cancel client id] := ⟨here, trivial⟩
  obtain ⟨during, now, still, _⟩ := waits_undisturbed before listed waits single
    (by simp [Operation.Spares]) (by simp) (by simp)
  obtain ⟨succeeds, held, target, key⟩ := cancels
  obtain ⟨running, disconnected, same⟩ := TaskManager.cancel_marks still succeeds target key
  obtain rfl : now = true := by cases same; rfl
  obtain ⟨after, last, final, kept⟩ := waits_undisturbed during
    (mem_step_added _ (.cancel client id) listed) still late spares.2.2 undrained.2.2 stays.2.2
  obtain rfl : last = true := kept rfl
  rw [after_append]
  exact ⟨after, final, Cancels.expected ⟨succeeds, held, target, key⟩ waits⟩

/-- A task that is cancelled while it waits is answered when the queue is drained. -/
theorem withdrawn_answered {begin : Moment σ} {early waiting : List (Operation σ)}
    (orderly : begin.Orderly) (admits : begin.AdmitsAll (early ++ .add (.request task) :: waiting))
    (withdrawn : begin.Withdrawn task early waiting)
    (undisturbed : begin.Undisturbed valid task.key)
    (spares : ∀ operation ∈ early ++ .add (.request task) :: waiting,
      operation.Spares valid task.key) :
    let drained := begin.after (early ++ .add (.request task) :: waiting)
    drained.exchange.answersTo task.key = [] ∧
      (drained.step .runAll).exchange.isAnswered task.key = true ∧
      (drained.step .runAll).exchange.answersTo task.key = [task.cancelledAnswer] := by
  intro drained
  obtain ⟨first, client, id, second, rfl, cancels⟩ := withdrawn.cancelled
  obtain ⟨past, here, future⟩ := admits.split
  have strange := (here task rfl).2.2
  -- until the task is added nothing is known of it, and then it waits
  have before := orderly.undisturbed_unknown undisturbed past
    (fun operation member => spares operation (List.mem_append_left _ member)) strange
  have unknown := ((orderly.after past).unknown task strange).1
  obtain ⟨_, next, _, stands, _, waits⟩ := step_begins rfl here unknown
  obtain rfl := waits withdrawn.queued
  have entered : ((begin.after early).step (.add (.request task))).Undisturbed valid task.key :=
    TaskManager.Undisturbed.add before (spares (.add (.request task)) (by simp))
      (.inr withdrawn.queued)
  have known : task ∈ ((begin.after early).step (.add (.request task))).added := by
    simp [Moment.step, Operation.added?, Task.request?]
  rw [after_append] at cancels
  obtain ⟨after, final, expected⟩ := waits_cancelled entered known stands future
    (fun operation member =>
      spares operation (List.mem_append_right _ (List.mem_cons_of_mem _ member)))
    withdrawn.undrained withdrawn.stays cancels
  have same : drained = ((begin.after early).step (.add (.request task))).after
      (first ++ .cancel client id :: second) := after_append ..
  rw [same]
  have enrolled := ((orderly.after past).step here).after future |>.enrolled task
    (mem_after_added _ _ known)
  exact ⟨after.untouched.silent, step_runAll_answers after final enrolled expected⟩

/-- In every history of a manager, each of its request tasks runs once at most, and its
cancellation is honoured. -/
theorem honours_every_task (state : σ) (senders : ClientId → Nat → Option SendFault)
    (others : List (List (Act σ))) (history : List (Operation σ))
    (admits : (start state senders others).AdmitsAll history) (task : RequestTask σ)
    (member : task ∈ ((start state senders others).after history).added) :
    (start state senders others).Honours history task := by
  have orderly := orderly_start state senders others
  have final := orderly.after admits
  constructor
  · exact final.count_le_one member rfl
  · rintro early operation late rfl forbids
    obtain ⟨past, rest⟩ := admits.split
    rw [after_append] at member final ⊢
    have known := (final.known_or member).resolve_right
      ((orderly.after past).known_of_forbids forbids)
    exact (orderly.after past).barred rest known forbids
  · rintro valid early waiting late rfl withdrawn unshared drained
    have split : early ++ .add (.request task) :: (waiting ++ .runAll :: late) =
        (early ++ .add (.request task) :: waiting) ++ .runAll :: late := by simp
    have untouched : (start state senders others).Undisturbed valid task.key :=
      undisturbed_start unshared.state unshared.others
    rw [split] at admits ⊢
    obtain ⟨silent, answered, answers⟩ := withdrawn_answered orderly admits.split.1 withdrawn
      untouched unshared.spares
    have grown := ((drained.step .runAll).after_grows late).answersTo
      (Exchange.othersCloseOnly_anyKey _) answered
    rw [after_append]
    exact ⟨silent, answers, grown.trans answers⟩
  · exact final.count_le_one member rfl
  · rintro early operation late rfl called
    rw [after_append] at member final
    exact (orderly.after admits.split.1).stops (final.known_or member) called
  · exact final.count_le_one member rfl

/-- A task that is cancelled while it waits, and a late answer to it. -/
def holdHistory : List (Operation Unit) :=
  [.enroll holdRequest] ++ .add (.request holdTask) ::
    ([.cancel ⟨1⟩ (.integer 1)] ++ .runAll :: [.act (.reply 0 (.ok .null))])

/-- The task is never called and has the one answer that it was cancelled, whatever comes late. -/
theorem honours_every_task_hold :
    (start () (fun _ _ => none) []).Honours holdHistory holdTask ∧
      ((start () (fun _ _ => none) []).after holdHistory).exchange.calls = [] ∧
      ((start () (fun _ _ => none) []).after holdHistory).exchange.answersTo 0 =
        [holdTask.cancelledAnswer] := by
  have admits : (start () (fun _ _ => none) []).AdmitsAll holdHistory := by
    refine ⟨.of_none rfl, ?_, .of_none rfl, .of_none rfl, .of_none rfl, trivial⟩
    rintro task ⟨⟩
    exact ⟨rfl, rfl, nofun⟩
  have added : ((start () (fun _ _ => none) []).after holdHistory).added = [holdTask] := rfl
  have honours := honours_every_task () (fun _ _ => none) [] holdHistory admits holdTask
    (by rw [added]; exact List.mem_singleton_self holdTask)
  have withdrawn : (start () (fun _ _ => none) []).Withdrawn holdTask [.enroll holdRequest]
      [.cancel ⟨1⟩ (.integer 1)] :=
    ⟨rfl, by simp, by simp, [], ⟨1⟩, .integer 1, [], rfl, rfl, holdTask, rfl, rfl⟩
  have unshared : Unshared (fun _ => True) 0 (start () (fun _ _ => none) [])
      ([.enroll holdRequest] ++ .add (.request holdTask) :: [.cancel ⟨1⟩ (.integer 1)]) := by
    refine ⟨trivial, nofun, ?_⟩
    simp only [List.singleton_append, List.forall_mem_cons]
    exact ⟨trivial, ⟨fun _ _ _ => trivial, trivial, trivial⟩, trivial, nofun⟩
  refine ⟨honours, by decide +kernel, ?_⟩
  exact (honours.answered (fun _ => True) [.enroll holdRequest] [.cancel ⟨1⟩ (.integer 1)]
    [.act (.reply 0 (.ok .null))] rfl withdrawn unshared).2.2

end Moment

end RpcDispatch
