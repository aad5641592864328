import RpcDispatch.Proofs.Dispatch.Silence
import RpcDispatch.Proofs.Service.Steps
import RpcDispatch.Proofs.Service.Tracking

/-
This file shows that a client that has left hears nothing more of the requests that were queued or
in flight, whatever happens afterwards, and that the service forgets its tasks.
-/

namespace RpcDispatch

open Exchange (Leads)

variable {σ : Type}

namespace Service

variable {dispatcher : Dispatcher σ} {taken : List RawRequest} {since : Key}
  {service later : Service σ}

/-! ### Departure -/

/-- The tasks and the exchange of an iteration when its frames have been routed and the given
clients have been disconnected. -/
def departed (service : Service σ) (clients : List ClientId) : TaskManager σ × Exchange σ :=
  Dispatcher.leaveAll clients (service.routed service.inbox)

/-- When one more client leaves, its tasks are disconnected. -/
theorem departed_next (service : Service σ) (front : List ClientId) (client : ClientId) :
    service.departed (front ++ [client]) =
      (service.departed front).1.disconnect client
        ((service.departed front).2.log (.clientDisconnected client)) :=
  Dispatcher.leaveAll_append front [client] _

/-- The iteration goes on with the clients that leave after it, and with its tail. -/
theorem poll_departed (service : Service σ) {first second : List ClientId}
    (split : service.inbox.disconnected = first ++ second) :
    let state := Dispatcher.leaveAll second (service.departed first)
    service.poll.manager = (state.1.runAll state.2).1 ∧
      service.poll.exchange = service.dispatcher.registry.update (state.1.runAll state.2).2 := by
  rw [departed, ← Dispatcher.leaveAll_append, ← split, ← handled_eq_leaveAll, poll_eq_handled]
  exact ⟨rfl, rfl⟩

theorem departed_keeps (keeps : service.dispatcher.Keeps since service.manager service.exchange)
    (clients : List ClientId) :
    service.dispatcher.Keeps since (service.departed clients).1 (service.departed clients).2 :=
  (routed_keeps keeps service.inbox).leaveAll clients

/-- Routing frames and disconnecting clients respects those who left before. -/
theorem departed_respects (keeps : service.dispatcher.Keeps since service.manager service.exchange)
    (clients : List ClientId) : service.exchange.Respects (service.departed clients).2 := by
  have greeted : Leads anyKey noHook service.exchange (service.greeted service.inbox).2 :=
    service.greeted_leads service.inbox
  have routed : (service.greeted service.inbox).2.Respects (service.routed service.inbox).2 :=
    (greeted_keeps keeps service.inbox).routeAll_respects service.inbox.requests
  exact ((greeted.respects fun _ => ⟨id, id⟩).trans routed).trans
    ((routed_keeps keeps service.inbox).leaveAll_respects clients)

/-- The tail of an iteration respects those who have left. -/
theorem tail_respects {manager : TaskManager σ} {exchange : Exchange σ}
    (keeps : dispatcher.Keeps since manager exchange) :
    exchange.Respects (dispatcher.registry.update (manager.runAll exchange).2) := by
  have updated : Leads anyKey (· = .update) (manager.runAll exchange).2
      (dispatcher.registry.update (manager.runAll exchange).2) :=
    dispatcher.registry.update_leads _ fun entrypoint _ => entrypoint.closesOnly_anyKey
  exact keeps.runAll_respects.trans (updated.respects (by simp))

/-- An iteration respects those who left before it, and those who leave in it. -/
theorem poll_respects (keeps : service.dispatcher.Keeps since service.manager service.exchange) :
    service.exchange.Respects service.poll.exchange := by
  rw [poll_eq_handled, handled_eq_leaveAll]
  exact (departed_respects keeps _).trans (tail_respects (departed_keeps keeps _))

/-! ### What follows a state -/

/-- Whatever happens respects those who have left. -/
theorem Run.step_respects (run : Run dispatcher taken since service) (step : Step σ) :
    service.exchange.Respects (service.step step).exchange := by
  have stretch {after : Exchange σ} (leads : Leads anyKey noHook service.exchange after) :
      service.exchange.Respects after := leads.respects fun _ => ⟨id, id⟩
  have polled := poll_respects run.keeps
  cases step with
  | notify arrival => exact stretch ((Leads.refl _).log arrival.notice)
  | act act => exact stretch ((Leads.refl _).perform act fun _ _ => trivial)
  | poll => exact polled
  | wait =>
      cases woken : service.wait? with
      | none => simpa [Service.step, woken] using Exchange.Respects.refl service.exchange
      | some next => simpa [Service.step, woken, wait?_eq_poll woken] using polled
  | waitTimeout =>
      show service.exchange.Respects service.waitTimeout.exchange
      rwa [waitTimeout_eq_poll]
  | shutdown => exact stretch ((Leads.refl _).log (.shuttingDown service.manager.size))

/-- So does any further run. -/
theorem Later.respects (past : Later service later) (run : Run dispatcher taken since service) :
    service.exchange.Respects later.exchange := by
  obtain ⟨steps, rfl⟩ := past
  induction steps generalizing taken since service with
  | nil => exact .refl service.exchange
  | cons step steps ih =>
      obtain ⟨_, _, next⟩ := run.step step
      exact (run.step_respects step).trans (ih next)

/-- In every run the requests whose disconnect hooks were called are hushed. -/
theorem Run.hushes (run : Run dispatcher taken since service) : service.exchange.Hushes := by
  induction run using Run.induction with
  | create state senders others =>
      intro key called
      simp [Service.create, Exchange.start, Exchange.calls] at called
  | notify arrival run ih => exact (run.step_respects (.notify arrival)).hushes ih
  | act act run ih => exact (run.step_respects (.act act)).hushes ih
  | poll run ih => exact (run.step_respects .poll).hushes ih
  | shutdown run ih => exact (run.step_respects .shutdown).hushes ih

/-! ### Those who leave -/

/-- Every held task has its disconnect hook called when its client is disconnected. -/
theorem departed_called (keeps : service.dispatcher.Keeps since service.manager service.exchange)
    (front : List ClientId) {task : RequestTask σ}
    (held : .request task ∈ (service.departed front).1.queue ++ (service.departed front).1.pending) :
    .disconnect task.key ∈ (service.departed (front ++ [task.request.client])).2.calls := by
  rw [service.departed_next front]
  have logged := (departed_keeps keeps front).log (.clientDisconnected task.request.client)
  exact logged.accounts.disconnect_called held

/-- So has every request that is queued or in flight. -/
theorem departed_reached (keeps : service.dispatcher.Keeps since service.manager service.exchange)
    (front : List ClientId) {task : RequestTask σ}
    (stake : .request task ∈ (service.departed front).1.queue ∨
      (task ∈ service.dispatcher.enlisted since (service.departed front).2.requests ∧
        InFlight task (service.departed front).2)) :
    .disconnect task.key ∈ (service.departed (front ++ [task.request.client])).2.calls := by
  rcases stake with queued | ⟨member, flying⟩
  · exact departed_called keeps front (List.mem_append_left _ queued)
  · have tracked := (departed_keeps keeps front).accounts.tracked
    obtain ⟨current, same, held⟩ := tracked.kept task member flying
    rw [← same.key, ← same.request]
    exact departed_called keeps front (List.mem_append_right _ held)

/-- What a client leaves behind.  From the call of its disconnect hook on, nothing is sent for a
request that was queued or in flight when the client was disconnected, and nothing at all after the
disconnection; a queued one is never called; and the iteration ends without tasks of the client. -/
theorem silent_after_disconnection (run : Run dispatcher taken since service)
    {front rest : List ClientId} {client : ClientId}
    (leaves : service.inbox.disconnected = front ++ client :: rest)
    (past : Later service.poll later) :
    let present := service.departed front
    let gone := service.departed (front ++ [client])
    let tasks := dispatcher.enlisted since present.2.requests
    (∀ task : RequestTask σ, task.request.client = client →
      .request task ∈ present.1.queue ∨ (task ∈ tasks ∧ InFlight task present.2) →
      later.exchange.Hushed task.key ∧
        later.exchange.textsFor task.key = gone.2.textsFor task.key) ∧
    (∀ task : RequestTask σ, task.request.client = client → .request task ∈ present.1.queue →
      .request task.key ∉ later.exchange.calls) ∧
    ∀ task ∈ service.poll.manager.queue ++ service.poll.manager.pending,
      task.client ≠ client := by
  intro present gone tasks
  have dispatcher_eq := run.dispatcher_eq
  have keeps : service.dispatcher.Keeps since present.1 present.2 := departed_keeps run.keeps front
  have logged := keeps.log (.clientDisconnected client)
  have next : gone = present.1.disconnect client
      (present.2.log (.clientDisconnected client)) := service.departed_next front client
  have keepsGone : service.dispatcher.Keeps since gone.1 gone.2 := departed_keeps run.keeps _
  have hushes : gone.2.Hushes := (departed_respects run.keeps _).hushes run.hushes
  have reached {task : RequestTask σ} (own : task.request.client = client)
      (stake : .request task ∈ present.1.queue ∨ (task ∈ tasks ∧ InFlight task present.2)) :
      .disconnect task.key ∈ gone.2.calls := by
    subst own
    exact departed_reached run.keeps front (dispatcher_eq ▸ stake)
  -- the others leave, the tail follows, and then what comes later
  have split : service.inbox.disconnected = (front ++ [client]) ++ rest := by simp [leaves]
  obtain ⟨manager_eq, exchange_eq⟩ := service.poll_departed split
  have tail := tail_respects (keepsGone.leaveAll rest)
  rw [← exchange_eq] at tail
  have onward : gone.2.Respects later.exchange :=
    ((keepsGone.leaveAll_respects rest).trans tail).trans (past.respects run.poll)
  refine ⟨fun task own stake => ?_, fun task own queued called => ?_, ?_⟩
  · have hushed := hushes task.key (reached own stake)
    exact ⟨hushed.grows onward.grows gone.2.othersCloseOnly_anyKey,
      (onward.grows.silent gone.2.othersCloseOnly_anyKey hushed.closed).2⟩
  · -- the disconnection calls no request hook, and nothing after it calls that of the task
    have disconnected :
        present.2.Leads anyKey (fun hook => ∃ key, hook = .disconnect key) gone.2 := by
      rw [next]
      exact ((Leads.refl present.2).log _).trans
        (logged.accounts.disconnect_leads (tasksCloseOnly_anyKey _) client fun _ _ _ => trivial)
    have before := onward.barred task.key (hushes task.key (reached own (.inl queued))) called
    rw [disconnected.mem_calls_iff present.2.othersCloseOnly_anyKey (by simp)] at before
    exact (keeps.accounts.tracked.waiting task queued).2 before
  · have away : gone.1.HasLeft client := by
      rw [next]
      exact logged.accounts.hasLeft fun other => absurd rfl other
    rw [manager_eq]
    exact (keepsGone.leaveAll rest).accounts.runAll_hasLeft (keepsGone.leaveAll_hasLeft away rest)

/-- A call of the method that is answered later. -/
def holdCall : RawRequest :=
  ⟨⟨1⟩, holdRequest.message.text.toUTF8.toList, .text⟩

/-- A client leaves after a first call, which is in flight, and together with a second one. -/
def leavingService : Service Unit :=
  ((holdService.notify (.request holdCall)).poll.notify (.request holdCall)).notify
    (.disconnection ⟨1⟩)

/-- A late answer to the first call is not sent, and the second call never starts. -/
theorem silent_after_disconnection_leaving :
    let polled := leavingService.poll
    (polled.exchange.perform (.reply 0 (.ok .null))).textsFor 0 = [] ∧
      .request 1 ∉ (polled.exchange.perform (.reply 0 (.ok .null))).calls ∧
      ∀ task ∈ polled.manager.queue ++ polled.manager.pending, task.client ≠ ⟨1⟩ := by
  have run : Run holdService.dispatcher [holdCall] 0 leavingService :=
    ((((Run.create () (fun _ _ => none) []).notify (.request holdCall)).poll).notify
      (.request holdCall)).notify (.disconnection ⟨1⟩)
  have leaves : leavingService.inbox.disconnected = [] ++ ⟨1⟩ :: [] := rfl
  have tracked := (run.dispatcher_eq ▸ departed_keeps run.keeps []).accounts.tracked
  obtain ⟨hushed, uncalled, away⟩ := silent_after_disconnection run leaves
    ⟨[.act (.reply 0 (.ok .null))], rfl⟩
  -- the second call is queued, and the first one is in flight
  have queue : (leavingService.departed []).1.queue.map (fun task => (task.key?, task.client)) =
      [(some 1, ⟨1⟩)] := by decide +kernel
  have pending : (leavingService.departed []).1.pending.map
      (fun task => (task.key?, task.client)) = [(some 0, ⟨1⟩)] := by decide +kernel
  have second : ∃ task : RequestTask Unit, .request task ∈ (leavingService.departed []).1.queue ∧
      task.key = 1 ∧ task.request.client = ⟨1⟩ := by
    obtain ⟨only, same, fields⟩ := List.map_eq_singleton_iff.mp queue
    cases only with
    | request task =>
        simp only [Task.key?, Task.client, Prod.mk.injEq, Option.some.injEq] at fields
        exact ⟨task, by simp [same], fields⟩
    | chunk _ => cases fields
    | external _ => cases fields
  obtain ⟨task, member, flying⟩ := tracked.pending.mp (by decide +kernel)
  obtain ⟨current, same, held⟩ := tracked.kept task member flying
  have fields := List.mem_map_of_mem (f := fun task => (task.key?, task.client)) held
  rw [pending, List.mem_singleton] at fields
  simp only [Task.key?, Task.client, Prod.mk.injEq, Option.some.injEq, same.key, same.request]
    at fields
  have texts : (leavingService.departed [⟨1⟩]).2.textsFor 0 = [] :=
    List.isEmpty_iff.mp (by decide +kernel)
  obtain ⟨queued, present, key, client⟩ := second
  have first := (hushed task fields.2 (.inr ⟨member, flying⟩)).2
  have never := uncalled queued client present
  rw [fields.1] at first
  rw [key] at never
  exact ⟨first.trans texts, never, away⟩

end Service

end RpcDispatch
