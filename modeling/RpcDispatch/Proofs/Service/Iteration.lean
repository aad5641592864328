import RpcDispatch.Proofs.Dispatch.Enlisted
import RpcDispatch.Proofs.Dispatch.Order
import RpcDispatch.Proofs.Inbox
import RpcDispatch.Service

/-
This file takes an iteration of a service apart.  Connections are reported, frames are routed, the
tasks of the clients that left are disconnected, the queue is run and the entrypoints are updated.
-/

namespace RpcDispatch

open Exchange (Leads)

variable {σ : Type} {closes : Key → Prop} {hooks : Hook → Prop}

/-- Updating calls no hook but the update hooks. -/
theorem Registry.update_leads (registry : Registry σ) (exchange : Exchange σ)
    (allowed : ∀ entrypoint ∈ registry.entrypoints, entrypoint.ClosesOnly closes) :
    Leads closes (· = .update) exchange (registry.update exchange) := by
  unfold Registry.update
  generalize registry.entrypoints = entrypoints at allowed ⊢
  induction entrypoints generalizing exchange with
  | nil => exact .refl exchange
  | cons entrypoint entrypoints ih =>
      have first : Leads closes (· = .update) exchange (exchange.callUpdate entrypoint) := by
        refine Exchange.call_leads exchange entrypoint.method .update ?_ entrypoint.onUpdate
          (allowed entrypoint (by simp)).onUpdate
        rfl
      exact first.trans (ih _ fun later member => allowed later (by simp [member]))

/-- An answered request stays answered when the entrypoints are updated. -/
theorem Registry.update_answered (registry : Registry σ) (exchange : Exchange σ) {key : Key}
    (answered : exchange.isAnswered key = true) :
    (registry.update exchange).isAnswered key = true :=
  (registry.update_leads exchange fun entrypoint _ => entrypoint.closesOnly_anyKey).answered
    exchange.othersCloseOnly_anyKey answered

namespace Service

/-! ### The states of an iteration -/

/-- The state in which an iteration begins to handle events. -/
def begun (service : Service σ) (taken : Inbox) : TaskManager σ × Exchange σ :=
  (service.manager,
    if taken.isEmpty then service.exchange
    else
      service.exchange.log
        (.processing taken.connected.length taken.disconnected.length taken.requests.length))

/-- The state in which an iteration begins to take frames. -/
def greeted (service : Service σ) (taken : Inbox) : TaskManager σ × Exchange σ :=
  ((service.begun taken).1,
    taken.connected.foldl (fun exchange client => exchange.log (.clientConnected client))
      (service.begun taken).2)

/-- The state in which an iteration has taken all frames. -/
def routed (service : Service σ) (taken : Inbox) : TaskManager σ × Exchange σ :=
  service.dispatcher.routeAll taken.requests (service.greeted taken)

/-- The state in which an iteration begins to run the queue. -/
def handled (service : Service σ) (taken : Inbox) : TaskManager σ × Exchange σ :=
  taken.order.foldl service.dispatcher.handle (service.begun taken)

/-- Before the first event there is at most one report. -/
theorem begun_of_log (service : Service σ) (taken : Inbox) (kept : Exchange σ → Prop)
    (log : ∀ exchange notice, kept exchange → kept (exchange.log notice))
    (start : kept service.exchange) : kept (service.begun taken).2 := by
  unfold begun
  split_ifs
  · exact start
  · exact log _ _ start

/-- Before the first frame there are only reports. -/
theorem greeted_of_log (service : Service σ) (taken : Inbox) (kept : Exchange σ → Prop)
    (log : ∀ exchange notice, kept exchange → kept (exchange.log notice))
    (start : kept service.exchange) : kept (service.greeted taken).2 := by
  have begun := service.begun_of_log taken kept log start
  unfold greeted
  generalize (service.begun taken).2 = exchange at begun ⊢
  induction taken.connected generalizing exchange with
  | nil => exact begun
  | cons client clients ih => exact ih _ (log _ _ begun)

/-- Greeting the clients closes nothing and calls no hook. -/
theorem greeted_leads (service : Service σ) (taken : Inbox) :
    Leads closes hooks service.exchange (service.greeted taken).2 :=
  service.greeted_of_log taken (Leads closes hooks service.exchange)
    (fun _ notice leads => leads.log notice) (.refl _)

/-- The clients that have left are handled last. -/
theorem handled_eq_leaveAll (service : Service σ) (taken : Inbox) :
    service.handled taken = Dispatcher.leaveAll taken.disconnected (service.routed taken) :=
  (service.dispatcher.dispatch_eq_foldl taken _ _).symm

/-- An iteration handles the events, runs the queue and updates the entrypoints. -/
theorem process_eq_handled (service : Service σ) (taken : Inbox) :
    service.process taken =
      let state := service.handled taken
      { service with
        manager := (state.1.runAll state.2).1
        exchange := service.dispatcher.registry.update (state.1.runAll state.2).2 } := by
  unfold process handled begun
  split_ifs with nothing
  · rw [Inbox.isEmpty_iff.mp nothing]
    rfl
  · rw [Dispatcher.dispatch_eq_foldl]

/-- The next iteration takes the inbox. -/
theorem poll_eq_handled (service : Service σ) :
    service.poll =
      let state := service.handled service.inbox
      { service with
        inbox := .empty
        manager := (state.1.runAll state.2).1
        exchange := service.dispatcher.registry.update (state.1.runAll state.2).2 } :=
  process_eq_handled { service with inbox := .empty } service.inbox

/-- The next iteration handles what the inbox holds, after all that was handled before. -/
theorem poll_handling {service : Service σ} {start : TaskManager σ × Exchange σ}
    {handled : List Arrival}
    (handling : service.dispatcher.Handling start handled (service.manager, service.exchange)) :
    service.dispatcher.Handling start (handled ++ service.inbox.order)
      (service.poll.manager, service.poll.exchange) := by
  have begun : service.dispatcher.Handling start handled (service.begun service.inbox) :=
    service.begun_of_log service.inbox
      (fun exchange => service.dispatcher.Handling start handled (service.manager, exchange))
      (fun _ notice handling => handling.log notice) handling
  rw [poll_eq_handled]
  exact (begun.handleAll service.inbox.order).settle

/-- Waiting that ends is polling. -/
theorem wait?_eq_poll {service next : Service σ} (woken : service.wait? = some next) :
    next = service.poll := by
  obtain ⟨_, found, same⟩ := Option.map_eq_some_iff.mp woken
  rw [(Inbox.wait?_eq_some.mp found).2] at same
  exact same.symm

/-- Waiting for a limited time is polling too. -/
theorem waitTimeout_eq_poll (service : Service σ) : service.waitTimeout = service.poll := by
  unfold waitTimeout
  rw [Inbox.waitTimeout_eq]
  rfl

/-! ### The account of the tasks -/

variable {service : Service σ} {since : Key}

/-- Greeting the clients keeps the account of the dispatcher. -/
theorem greeted_keeps (keeps : service.dispatcher.Keeps since service.manager service.exchange)
    (taken : Inbox) :
    service.dispatcher.Keeps since (service.greeted taken).1 (service.greeted taken).2 :=
  service.greeted_of_log taken (service.dispatcher.Keeps since service.manager)
    (fun _ notice keeps => keeps.log notice) keeps

/-- The frames of an iteration keep the account of the dispatcher. -/
theorem routed_keeps (keeps : service.dispatcher.Keeps since service.manager service.exchange)
    (taken : Inbox) :
    service.dispatcher.Keeps since (service.routed taken).1 (service.routed taken).2 :=
  (greeted_keeps keeps taken).routeAll taken.requests

/-- The traffic of an iteration keeps the account of the dispatcher. -/
theorem handled_keeps (keeps : service.dispatcher.Keeps since service.manager service.exchange)
    (taken : Inbox) :
    service.dispatcher.Keeps since (service.handled taken).1 (service.handled taken).2 := by
  rw [handled_eq_leaveAll]
  exact (routed_keeps keeps taken).leaveAll taken.disconnected

/-- An iteration keeps the account of the tasks. -/
theorem process_keeps (keeps : service.dispatcher.Keeps since service.manager service.exchange)
    (taken : Inbox) :
    service.dispatcher.Keeps since (service.process taken).manager
      (service.process taken).exchange := by
  rw [process_eq_handled]
  refine (handled_keeps keeps taken).runAll.quiet
    (service.dispatcher.registry.update_leads _ fun entrypoint _ =>
      entrypoint.closesOnly_anyKey) ?_
  simp

/-- A poll keeps the account of the dispatcher. -/
theorem poll_keeps (keeps : service.dispatcher.Keeps since service.manager service.exchange) :
    service.dispatcher.Keeps since service.poll.manager service.poll.exchange := by
  have later : ({ service with inbox := .empty } : Service σ).dispatcher.Keeps since
      service.poll.manager service.poll.exchange := process_keeps keeps service.inbox
  exact later

end Service

end RpcDispatch
