import RpcDispatch.Proofs.Exchange.Visible
import RpcDispatch.Proofs.Task.Lists
import Mathlib.Data.List.Forall2

/-
This file says what can be seen of the tasks.  A queued task shows when it runs whether it was left,
cancelled or called; disconnecting a client shows the hooks of its tasks in their order; cancelling
shows one hook at most.
-/

namespace RpcDispatch

open Exchange (Shows Hides Speaks)

variable {σ : Type}

/-- What can be seen of a request hook: its call, and then at most one answer to its own request. -/
def Entrypoint.Responds (entrypoint : Entrypoint σ) (key : Key) (request : Request)
    (shown : List Visible) : Prop :=
  ∃ said : List Delivery, said.length ≤ 1 ∧
    (∀ delivery ∈ said, delivery.IsAnswerTo key request) ∧
    shown = .call entrypoint.method (.request key) :: said.map .text

namespace RequestTask

variable {touched : Key → Prop} {before after later exchange : Exchange σ} {task : RequestTask σ}
  {shown : List Visible}

/-! ### Running -/

/-- What can be seen of a queued task when it runs. -/
inductive Runs (after : Exchange σ) (task : RequestTask σ) : List Visible → Prop where
  /-- A task whose client has left is silent. -/
  | left (gone : task.disconnected = true) : Runs after task []
  /-- A cancelled task answers so, and its entrypoint is not called. -/
  | cancelled {shown : List Visible} (stays : task.disconnected = false)
      (marked : task.cancelled = true) (expected : task.request.isNotification = false)
      (told : after.Tells task.key task.request (Rpc.errorText · .taskCancelled) shown) :
      Runs after task shown
  /-- Any other task calls its entrypoint. -/
  | called {shown : List Visible} (stays : task.disconnected = false)
      (kept : task.cancelled = false)
      (responds : task.entrypoint.Responds task.key task.request shown) : Runs after task shown

/-- What a task may show stays so when more requests are closed. -/
theorem Runs.mono (runs : task.Runs after shown)
    (closed : ∀ key, after.isClosed key = true → later.isClosed key = true) :
    task.Runs later shown := by
  cases runs with
  | left gone => exact .left gone
  | cancelled stays marked expected told =>
      exact .cancelled stays marked expected (told.mono closed)
  | called stays kept responds => exact .called stays kept responds

/-- A task that waits in the queue: its request has no answer yet, and it was cancelled only if its
client expects one. -/
structure Waits (task : RequestTask σ) (exchange : Exchange σ) : Prop where
  own : task.entrypoint.AnswersOwn
  enrolled : exchange.requests[task.key]? = some task.request
  idle : task.running = false
  unanswered : exchange.isAnswered task.key = false
  expected : task.cancelled = true → task.request.isNotification = false

/-- A task goes on waiting while other requests are answered. -/
theorem Waits.shows (waits : task.Waits before) (shows : Shows touched before after shown)
    (apart : ¬ touched task.key) : task.Waits after where
  own := waits.own
  enrolled := shows.enrolled waits.enrolled
  idle := waits.idle
  unanswered := (shows.answered task.key apart).trans waits.unanswered
  expected := waits.expected

/-- After the call of the request hook the task answers no other request than its own. -/
theorem invoke_speaks (task : RequestTask σ) (exchange : Exchange σ)
    (own : task.entrypoint.AnswersOwn) (silent : exchange.OthersSilent) :
    Speaks (· = task.key) (exchange.record (.called task.entrypoint.method (.request task.key)))
      (task.invoke exchange) := by
  have called : Speaks (· = task.key)
      (exchange.record (.called task.entrypoint.method (.request task.key)))
      (exchange.callRequest task.entrypoint task.key task.request).2 :=
    Script.run_speaks _ _ (own.onRequest task.key task.request) silent
  unfold invoke
  dsimp only
  split
  · exact called
  · next error failed =>
      have logged := called.trans ((Hides.refl _).log (.taskFailed task.request.client
        task.request.id task.request.method error)).speaks
      have paused := logged.trans (Exchange.hides_pause (logged.silent silent)).speaks
      refine paused.trans ?_
      rw [Exchange.error]
      apply Exchange.answer_speaks
      rfl

/-- A task that is not spent shows the call of its request hook and an answer at most. -/
theorem run_responds (task : RequestTask σ) (exchange : Exchange σ)
    (own : task.entrypoint.AnswersOwn) (silent : exchange.OthersSilent)
    (accurate : exchange.Accurate) (enrolled : exchange.requests[task.key]? = some task.request)
    (fresh : ¬ task.IsSpent) :
    ∃ shown, task.entrypoint.Responds task.key task.request shown ∧
      Shows (· = task.key) exchange (task.run exchange).2 shown := by
  have leads := task.run_leads exchange task.entrypoint.closesOnly_anyKey
  have later := accurate.grow leads.grows
  have kept := leads.requests exchange.othersCloseOnly_anyKey
  rw [task.run_eq_invoke exchange fresh] at later kept ⊢
  have logged := (Hides.refl exchange).log (.taskRunning task.request.client task.request.id
    task.request.method)
  obtain ⟨said, own, shows⟩ := task.invoke_speaks _ own (logged.silent silent)
  have called := ((Exchange.shows_called _ _ _).since logged).trans shows
  have causes : ∀ delivery ∈ said, delivery.cause = .answer task.key := by
    intro delivery member
    obtain ⟨_, rfl, cause⟩ := own delivery member
    exact cause
  have visible := called.visible
  rw [← List.append_assoc] at visible
  obtain ⟨once, answers⟩ := later.said (kept ▸ enrolled) visible causes
  exact ⟨_, ⟨said, once, answers, rfl⟩, called⟩

/-- What can be seen of a waiting task when it runs. -/
theorem Waits.run (waits : task.Waits exchange) (silent : exchange.OthersSilent)
    (accurate : exchange.Accurate) :
    ∃ shown, task.Runs (task.run exchange).2 shown ∧
      Shows (· = task.key) exchange (task.run exchange).2 shown := by
  cases gone : task.disconnected with
  | true =>
      have same : task.run exchange =
          (task, exchange.log (.taskSkipped task.request.client task.request.method)) := by
        simp [RequestTask.run, gone]
      rw [same]
      exact ⟨[], .left gone, ((Hides.refl exchange).log _).widen⟩
  | false =>
      cases marked : task.cancelled with
      | true =>
          have same : task.run exchange =
              (task, exchange.pause.error task.key .taskCancelled) := by
            simp [RequestTask.run, gone, marked]
          obtain ⟨shown, told, shows⟩ := Exchange.pause_tells silent waits.enrolled
            waits.unanswered (Rpc.errorText · .taskCancelled)
          rw [same]
          exact ⟨shown, .cancelled gone marked (waits.expected marked) told, shows⟩
      | false =>
          have fresh : ¬ task.IsSpent := by simp [IsSpent, gone, marked, waits.idle]
          obtain ⟨shown, responds, shows⟩ :=
            task.run_responds exchange waits.own silent accurate waits.enrolled fresh
          exact ⟨shown, .called gone marked responds, shows⟩

/-! ### Disconnecting and cancelling -/

/-- The call of the disconnect hook of a task. -/
def farewell (task : RequestTask σ) : Visible :=
  .call task.entrypoint.method (.disconnect task.key)

/-- Disconnecting a task shows the call of its hook, the first time. -/
theorem disconnect_shows (task : RequestTask σ) (exchange : Exchange σ)
    (own : task.entrypoint.AnswersOwn) (silent : exchange.OthersSilent) :
    Shows noKey exchange (task.disconnect exchange).2
      (if task.disconnected then [] else [task.farewell]) := by
  cases gone : task.disconnected with
  | true =>
      have same : task.disconnect exchange = (task, exchange) := by simp [disconnect, gone]
      rw [same]
      exact Hides.refl exchange
  | false =>
      have closed : Hides exchange (exchange.pause.close task.key) :=
        (Exchange.hides_pause silent).then (exchange.pause.close_hides task.key)
      have called : Shows noKey exchange
          ((exchange.pause.close task.key).callDisconnect task.entrypoint task.key).2
          [task.farewell] :=
        ((Exchange.shows_called _ _ _).since closed).then
          (Script.run_hides _ _ own.onDisconnect (closed.silent silent))
      unfold disconnect
      dsimp only
      rw [gone, if_neg Bool.false_ne_true, if_neg Bool.false_ne_true]
      split
      · next result => rwa [result] at called
      · next failure result =>
          rw [result] at called
          exact called.then ((Hides.refl _).log _)

/-- The task as it was before it was cancelled. -/
def unmarked (task : RequestTask σ) : RequestTask σ :=
  { task with cancelled := false }

/-- What can be seen of a cancellation: one cancel hook at most, and none if it fails. -/
def Cancels (outcome : Except Rpc.Error Unit) (shown : List Visible) : Prop :=
  shown = [] ∨ outcome = .ok () ∧ ∃ method key, shown = [.call method (.cancel key)]

theorem cancel_shows (task : RequestTask σ) (exchange : Exchange σ)
    (own : task.entrypoint.AnswersOwn) (silent : exchange.OthersSilent) :
    ∃ shown, Cancels (task.cancel exchange).1 shown ∧
      Shows noKey exchange (task.cancel exchange).2.2 shown ∧
      (task.cancel exchange).2.1.unmarked = task.unmarked := by
  rcases task.cancel_cases exchange with ⟨error, same⟩ | ⟨_, same⟩
  · rw [same]
    exact ⟨[], .inl rfl, Hides.refl exchange, rfl⟩
  · rw [same]
    dsimp only
    split_ifs
    · have called : Shows noKey exchange (exchange.callCancel task.entrypoint task.key)
          [.call task.entrypoint.method (.cancel task.key)] :=
        (Exchange.shows_called exchange _ _).then (Script.run_hides _ _ own.onCancel silent)
      exact ⟨_, .inr ⟨rfl, _, _, rfl⟩, called, rfl⟩
    · exact ⟨[], .inl rfl, Hides.refl exchange, rfl⟩

/-- Whether a task is pending depends on whether its request is answered. -/
theorem isPending_congr (task : RequestTask σ)
    (same : after.isAnswered task.key = before.isAnswered task.key) :
    task.isPending after = task.isPending before := by
  rw [Bool.eq_iff_iff, isPending_iff, isPending_iff, same]

end RequestTask

namespace TaskManager

variable {touched : Key → Prop} {exchange : Exchange σ} {queued pending : List (RequestTask σ)}

/-! ### Draining and pruning -/

/-- Draining the queue shows its tasks one after another. -/
theorem drain_shows (pending : List (RequestTask σ)) (silent : exchange.OthersSilent)
    (accurate : exchange.Accurate)
    (waits : ∀ task ∈ queued, task.Waits exchange) (once : (queued.map (·.key)).Nodup) :
    let after := (drain (queued.map .request) (pending.map .request) exchange).2
    ∃ blocks, List.Forall₂ (fun task shown => task.Runs after shown) queued blocks ∧
      Shows anyKey exchange after blocks.flatten := by
  induction queued generalizing pending exchange with
  | nil => exact ⟨[], .nil, (Hides.refl exchange).widen⟩
  | cons task queued ih =>
      rw [List.map_cons, List.nodup_cons] at once
      obtain ⟨shown, runs, first⟩ := (waits task List.mem_cons_self).run silent accurate
      have turn := Exchange.hides_pause (first.silent silent)
      have step := first.then turn
      have leads : Exchange.Leads anyKey (· = .request task.key) exchange
          (task.run exchange).2.pause :=
        (task.run_leads exchange task.entrypoint.closesOnly_anyKey).pause
      have others : ∀ later ∈ queued, later.Waits (task.run exchange).2.pause := by
        intro later member
        refine (waits later (List.mem_cons_of_mem _ member)).shows step fun same => ?_
        exact once.1 (same ▸ List.mem_map_of_mem member)
      obtain ⟨blocks, each, rest⟩ := ih _ (step.silent silent) (accurate.grow leads.grows) others
        once.2
      simp only [List.map_cons, drain, Task.run, retain_request]
      refine ⟨shown :: blocks, .cons (runs.mono ?_) each, ?_⟩
      · exact fun key shut => rest.closed key (turn.closed key shut)
      · exact (step.widen fun _ _ => trivial).trans rest

/-- Nothing can be seen of dropping the finished tasks. -/
theorem keepPending_hides (tasks : List (Task σ)) (silent : exchange.OthersSilent) :
    Hides exchange (keepPending tasks exchange).2 := by
  induction tasks generalizing exchange with
  | nil => exact Hides.refl exchange
  | cons task tasks ih =>
      have turn := Exchange.hides_pause silent
      exact turn.then (ih (turn.silent silent))

/-- Where no other thread answers, pruning keeps the tasks that are pending. -/
theorem keepPending_fst (tasks : List (RequestTask σ)) (silent : exchange.OthersSilent) :
    (keepPending (tasks.map .request) exchange).1 =
      (tasks.filter (·.isPending exchange)).map .request := by
  induction tasks generalizing exchange with
  | nil => rfl
  | cons task tasks ih =>
      have turn := Exchange.hides_pause silent
      have same (task : RequestTask σ) : task.isPending exchange.pause = task.isPending exchange :=
        task.isPending_congr (turn.answered task.key id)
      simp only [List.map_cons, keepPending, Task.isPending, ih (turn.silent silent), same,
        List.filter_cons]
      split_ifs <;> rfl

/-- Running all tasks shows the queue in its order. -/
theorem runAll_shows (pending : List (RequestTask σ)) (silent : exchange.OthersSilent)
    (accurate : exchange.Accurate)
    (waits : ∀ task ∈ queued, task.Waits exchange) (once : (queued.map (·.key)).Nodup) :
    let after := (runAll ⟨queued.map .request, pending.map .request⟩ exchange).2
    ∃ blocks, List.Forall₂ (fun task shown => task.Runs after shown) queued blocks ∧
      Shows anyKey exchange after blocks.flatten := by
  obtain ⟨blocks, each, shows⟩ := drain_shows pending silent accurate waits once
  have pruned := keepPending_hides (drain (queued.map .request) (pending.map .request) exchange).1
    (shows.silent silent)
  exact ⟨blocks, each.imp fun _ _ runs => runs.mono pruned.closed, shows.then pruned⟩

/-! ### Disconnecting -/

/-- The calls of the hooks of those tasks that hear that the client has left, in their order. -/
def farewells (client : ClientId) (tasks : List (RequestTask σ)) : List Visible :=
  (tasks.filter (·.hears client)).map (·.farewell)

/-- All that can be seen of disconnecting a client are the hooks of its tasks in flight. -/
theorem disconnectEach_shows (client : ClientId) (tasks : List (RequestTask σ))
    (own : ∀ task ∈ tasks, task.entrypoint.AnswersOwn) (silent : exchange.OthersSilent) :
    Shows noKey exchange (disconnectEach client (tasks.map .request) exchange).2
      (farewells client tasks) := by
  induction tasks generalizing exchange with
  | nil => exact Hides.refl exchange
  | cons task tasks ih =>
      have later := fun task member => own task (List.mem_cons_of_mem _ member)
      by_cases leaves : task.request.client = client
      · have first := task.disconnect_shows exchange (own task List.mem_cons_self) silent
        have shown : farewells client (task :: tasks) =
            (if task.disconnected then [] else [task.farewell]) ++ farewells client tasks := by
          cases gone : task.disconnected <;>
            simp [farewells, RequestTask.hears, leaves, gone]
        rw [shown]
        simpa [disconnectEach, Task.client, Task.disconnect, leaves] using
          first.trans (ih later (first.silent silent))
      · simpa [disconnectEach, Task.client, leaves, farewells, RequestTask.hears, List.filter_cons]
          using ih later silent

/-- Disconnecting a client shows the hooks of its tasks, in the queue and then among the pending
ones.  Of these the others remain that are still pending. -/
theorem disconnect_shows (client : ClientId) (queued pending : List (RequestTask σ))
    (own : ∀ task ∈ queued ++ pending, task.entrypoint.AnswersOwn)
    (silent : exchange.OthersSilent) :
    let after := disconnect ⟨queued.map .request, pending.map .request⟩ client exchange
    after.1 = ⟨(queued.map (·.leave client)).map .request,
        ((pending.map (·.leave client)).filter (·.isPending exchange)).map .request⟩ ∧
      Shows noKey exchange after.2 (farewells client (queued ++ pending)) := by
  intro after
  have left := disconnectEach_shows client (queued ++ pending) own silent
  have pruned := keepPending_hides ((pending.map (·.leave client)).map .request)
    (left.silent silent)
  have kept := keepPending_fst (pending.map (·.leave client)) (left.silent silent)
  have same : (fun task : RequestTask σ => task.isPending
        (disconnectEach client ((queued ++ pending).map .request) exchange).2) =
      fun task => task.isPending exchange := by
    funext task
    exact task.isPending_congr (left.answered task.key id)
  obtain ⟨notice, outcome⟩ := disconnect_request queued pending client exchange
  have split : after = _ := outcome
  rw [split]
  constructor
  · rw [kept, same]
  · exact left.then (pruned.log notice)

/-! ### Cancelling -/

/-- Tasks wait on when one of them is cancelled by its identifier. -/
theorem waits_cancel {front rest : List (RequestTask σ)} {task : RequestTask σ}
    {asked after : Exchange σ} {shown : List Visible}
    (waits : ∀ other ∈ front ++ task :: rest, other.Waits asked)
    (named : task.request.isNotification = false) (shows : Shows noKey asked after shown) :
    ∀ other ∈ front ++ (task.cancel asked).2.1 :: rest, other.Waits after := by
  intro other member
  rcases List.mem_append.mp member with early | later
  · exact (waits other (by simp [early])).shows shows not_false
  · rcases List.mem_cons.mp later with rfl | late
    · have ready := (waits task (by simp)).shows shows not_false
      rcases task.cancel_task asked with same | same
      · rw [same]
        exact ready
      · rw [same]
        exact ⟨ready.own, ready.enrolled, ready.idle, ready.unanswered, fun _ => named⟩
    · exact (waits other (by simp [late])).shows shows not_false

/-- Nothing can be seen of the report of a cancellation. -/
theorem reportCancel_hides (client : ClientId) (id : Rpc.Id) (outcome : Except Rpc.Error Unit)
    (exchange : Exchange σ) : Hides exchange (reportCancel client id outcome exchange) := by
  unfold reportCancel
  split
  · exact (Hides.refl exchange).log _
  · exact Hides.refl exchange

/-- Cancelling shows one hook at most.  The queue is the same up to the mark of the cancelled task,
and all its tasks wait on. -/
theorem cancel_shows (client : ClientId) (id : Rpc.Id) (queued pending : List (RequestTask σ))
    (own : ∀ task ∈ queued ++ pending, task.entrypoint.AnswersOwn)
    (silent : exchange.OthersSilent) (waits : ∀ task ∈ queued, task.Waits exchange) :
    let after := cancel ⟨queued.map .request, pending.map .request⟩ client id exchange
    ∃ (shown : List Visible) (queue rest : List (RequestTask σ)),
      RequestTask.Cancels after.1 shown ∧ Shows noKey exchange after.2.2 shown ∧
      after.2.1 = ⟨queue.map .request, rest.map .request⟩ ∧
      queue.map (·.unmarked) = queued.map (·.unmarked) ∧
      ∀ task ∈ queue, task.Waits after.2.2 := by
  intro after
  have asked := keepPending_hides (pending.map .request) silent
  have same : after = cancel _ client id exchange := rfl
  unfold cancel prune at same
  dsimp only at same
  rw [keepPending_fst pending silent] at same
  generalize (keepPending (pending.map .request) exchange).2 = paused at asked same
  have quiet := asked.silent silent
  split_ifs at same with empty
  · rw [same]
    exact ⟨[], queued, pending, .inl rfl, Hides.refl exchange, rfl, rfl, waits⟩
  · rcases cancelFirst_split client id queued paused with
      absent | ⟨front, task, rest, rfl, _, named, cut⟩
    · rw [absent] at same
      dsimp only at same
      rcases cancelFirst_split client id (pending.filter (·.isPending exchange)) paused with
        absent | ⟨front, task, rest, split, _, _, cut⟩
      · rw [absent] at same
        rw [same]
        exact ⟨[], queued, _, .inl rfl, asked, rfl, rfl,
          fun task member => (waits task member).shows asked not_false⟩
      · -- the task has run and is pending, so that its hook may be called
        have kept : task ∈ pending.filter (·.isPending exchange) := by
          rw [split]
          simp
        have held := List.mem_of_mem_filter kept
        obtain ⟨shown, cancels, shows, _⟩ :=
          task.cancel_shows paused (own task (List.mem_append_right _ held)) quiet
        have whole := (shows.since asked).then
          (reportCancel_hides client id (task.cancel paused).1 _)
        rw [cut] at same
        rw [same]
        exact ⟨shown, queued, _, cancels, whole, rfl, rfl,
          fun task member => (waits task member).shows whole not_false⟩
    · -- the task is in the queue and stays there, with a mark
      obtain ⟨shown, cancels, shows, unmarked⟩ :=
        task.cancel_shows paused (own task (by simp)) quiet
      have cancelled := shows.then (reportCancel_hides client id (task.cancel paused).1 _)
      have whole := cancelled.since asked
      have expected : task.request.isNotification = false := by
        simpa [Request.isNotification, named] using empty
      rw [cut] at same
      rw [same]
      refine ⟨shown, _, _, cancels, whole, rfl, ?_, ?_⟩
      · rw [List.map_append, List.map_cons, unmarked, List.map_append, List.map_cons]
      · apply waits_cancel (fun other member => ?_) expected cancelled
        exact (waits other member).shows asked not_false

end TaskManager

end RpcDispatch
