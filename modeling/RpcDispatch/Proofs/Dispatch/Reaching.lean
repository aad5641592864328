import RpcDispatch.Proofs.Service.Parameters

/-
This file says which requests reach an entrypoint.  A request reaches it when it waits in the queue
as a task for it, or when its request hook is called at once.
-/

namespace RpcDispatch

open Exchange (Leads)

variable {σ : Type} {closes : Key → Prop}

/-- The hook that an event calls, and the method that it is called for. -/
def Event.call? : Event → Option (String × Hook)
  | .called method hook => some (method, hook)
  | _ => none

namespace Exchange

variable {before after : Exchange σ}

/-- All calls of hooks in order, each with its method. -/
def called (exchange : Exchange σ) : List (String × Hook) :=
  exchange.trace.filterMap Event.call?

theorem calls_eq_called (exchange : Exchange σ) :
    exchange.calls = exchange.called.map Prod.snd := by
  rw [calls, called, List.map_filterMap]
  congr
  funext event
  cases event <;> rfl

@[simp] theorem record_called (exchange : Exchange σ) (method : String) (hook : Hook) :
    (exchange.record (.called method hook)).called = exchange.called ++ [(method, hook)] := by
  simp [called, record, Event.call?]

@[simp] theorem log_called (exchange : Exchange σ) (notice : Log.Notice) :
    (exchange.log notice).called = exchange.called := by
  simp [called, log, record, Event.call?]

theorem welcome_called (exchange : Exchange σ) (request : Request) :
    (exchange.welcome request).called = exchange.called :=
  log_called _ _

/-- A stretch that may call no hook calls none. -/
theorem Leads.called_quiet (leads : Leads closes noHook before after)
    (within : before.OthersCloseOnly closes) : after.called = before.called := by
  obtain ⟨added, longer⟩ := leads.grows.trace within
  have quiet := leads.calls_quiet within
  have split : after.called = before.called ++ added.filterMap Event.call? := by
    rw [Exchange.called, ← longer, List.filterMap_append, Exchange.called]
  rw [calls_eq_called, calls_eq_called, split, List.map_append, List.append_right_eq_self,
    List.map_eq_nil_iff] at quiet
  rw [split, quiet, List.append_nil]

end Exchange

/-- Cancelling takes nothing from the queue and adds nothing to it. -/
theorem TaskManager.cancel_length (manager : TaskManager σ) (client : ClientId) (id : Rpc.Id)
    (exchange : Exchange σ) :
    (manager.cancel client id exchange).2.1.queue.length = manager.queue.length := by
  rcases manager.cancel_cases client id exchange with
    ⟨_, same⟩ | ⟨_, _, error, same⟩ | ⟨ran, front, found, rest, split, _, same, _⟩
  · rw [same]
  · rw [same]
    rfl
  · rw [same]
    cases ran with
    | true => rfl
    | false =>
        have queue : manager.queue = front ++ found :: rest := split
        rw [queue]
        simp [TaskManager.withTasks]

namespace Dispatcher

/-- A request becomes a task for the entrypoint: it waits in the queue, or its hook is called at
once. -/
def Reaches (entrypoint : Entrypoint σ) (key : Key) (request : Request)
    (manager : TaskManager σ) (exchange : Exchange σ) (result : TaskManager σ × Exchange σ) :
    Prop :=
  result.1.queue = manager.queue ++ [.request (.create key request entrypoint)] ∨
    result.2.called = exchange.called ++ [(entrypoint.method, .request key)]

variable {entrypoint handler : Entrypoint σ} {key : Key} {request : Request}
  {manager : TaskManager σ} {exchange : Exchange σ} {result : TaskManager σ × Exchange σ}

/-- A task that is added waits in the queue, or the hook of its entrypoint is called at once. -/
theorem add_request (key : Key) (request : Request) (entrypoint : Entrypoint σ)
    (manager : TaskManager σ) (exchange : Exchange σ) :
    let task := RequestTask.create key request entrypoint
    let result := manager.add (.request task) exchange
    (result.1.queue = manager.queue ++ [.request task] ∧
        result.2.called = exchange.called) ∨
      (result.1.queue = manager.queue ∧
        result.2.called = exchange.called ++ [(entrypoint.method, .request key)]) := by
  intro task result
  cases priority : (Task.request task).hasPriority with
  | false =>
      have same : result = ({ manager with queue := manager.queue ++ [.request task] },
          exchange.log (.queued request.client request.method (manager.queue.length + 1))) :=
        if_neg (by simp [priority])
      rw [same]
      exact .inl ⟨rfl, exchange.log_called _⟩
  | true =>
      obtain ⟨pending, same⟩ : ∃ pending, result = ({ manager with pending },
          ((Task.request task).run
            (exchange.log (.runningPriority request.client request.method))).2.pause) :=
        ⟨_, if_pos priority⟩
      rw [same]
      refine .inr ⟨rfl, ?_⟩
      -- the call is recorded before the hook runs, and nothing is called after it
      have later (exchange : Exchange σ) : Leads anyKey noHook
          (exchange.record (.called entrypoint.method (.request key)))
          (task.invoke exchange).pause :=
        (task.invoke_leads exchange entrypoint.closesOnly_anyKey).pause
      have ran := task.run_eq_invoke (exchange.log (.runningPriority request.client request.method))
        RequestTask.create_fresh
      rw [Task.run, ran, (later _).called_quiet (Exchange.othersCloseOnly_anyKey _),
        Exchange.record_called, Exchange.log_called, Exchange.log_called]

theorem reaches_add : Reaches entrypoint key request manager exchange
    (manager.add (.request (.create key request entrypoint)) exchange) := by
  rcases add_request key request entrypoint manager exchange with ⟨queue, _⟩ | ⟨_, called⟩
  · exact .inl queue
  · exact .inr called

/-- A task reaches no other entrypoint than one for the method that it was made for. -/
theorem Reaches.of_add (reaches : Reaches entrypoint key request manager exchange
    (manager.add (.request (.create key request handler)) exchange)) :
    handler.method = entrypoint.method := by
  rcases add_request key request handler manager exchange with ⟨queue, quiet⟩ | ⟨same, called⟩
  · rcases reaches with queued | called
    · rw [queue] at queued
      simp only [List.append_cancel_left_eq, List.cons.injEq, and_true, Task.request.injEq]
        at queued
      exact congrArg (fun task => task.entrypoint.method) queued
    · rw [quiet] at called
      simp at called
  · rcases reaches with queued | again
    · rw [same] at queued
      simp at queued
    · rw [called] at again
      simpa using again

/-- Where the queue gets no longer and the request hook is not called, no entrypoint is reached. -/
theorem not_reaches (queue : result.1.queue.length = manager.queue.length)
    (calls : result.2.calls.count (.request key) = exchange.calls.count (.request key)) :
    ¬ Reaches entrypoint key request manager exchange result := by
  rintro (queued | called)
  · rw [queued] at queue
    simp at queue
  · rw [Exchange.calls_eq_called, called, List.map_append, ← Exchange.calls_eq_called] at calls
    simp at calls

theorem reaches_welcome : Reaches entrypoint key request manager (exchange.welcome request) result ↔
    Reaches entrypoint key request manager exchange result := by
  rw [Reaches, Reaches, exchange.welcome_called request]

variable {dispatcher : Dispatcher σ}

theorem handler?_method (handled : dispatcher.handler? request = some entrypoint) :
    entrypoint.method = request.method := by
  unfold handler? at handled
  split_ifs at handled
  simpa using List.find?_some handled

/-- A request that has a handler becomes a task for it. -/
theorem route_handled (handled : dispatcher.handler? request = some entrypoint) :
    dispatcher.route key request manager exchange =
      manager.add (.request (.create key request entrypoint)) exchange := by
  have step := dispatcher.route_step key request manager exchange
  generalize dispatcher.route key request manager exchange = result at step ⊢
  cases step with
  | answer unhandled reported same act answers =>
      rw [handled] at unhandled
      cases unhandled
  | cancel unhandled id act answers =>
      rw [handled] at unhandled
      cases unhandled
  | task found same =>
      rw [handled] at same
      cases same
      rfl

/-- A request reaches the entrypoint that handles it. -/
theorem reaches_route (handled : dispatcher.handler? request = some entrypoint) :
    Reaches entrypoint key request manager exchange
      (dispatcher.route key request manager exchange) := by
  rw [route_handled handled]
  exact reaches_add

/-- An entrypoint that is reached is for the method of the one that handles the request. -/
theorem Reaches.handled
    (reaches : Reaches entrypoint key request manager exchange
      (dispatcher.route key request manager exchange)) :
    ∃ handler, dispatcher.handler? request = some handler ∧
      handler.method = entrypoint.method := by
  have step := dispatcher.route_step key request manager exchange
  generalize dispatcher.route key request manager exchange = result at step reaches
  cases step with
  | answer unhandled reported same act answers =>
      refine absurd reaches (not_reaches rfl ?_)
      rw [pause_perform_calls answers]
      rcases same with rfl | ⟨notice, rfl⟩
      · rfl
      · rw [Exchange.log_calls]
  | cancel unhandled id act answers =>
      refine absurd reaches (not_reaches (manager.cancel_length _ id exchange) ?_)
      have quiet := manager.leads_cancel request.client id exchange
      rw [pause_perform_calls answers]
      exact quiet.count_calls exchange.othersCloseOnly_anyKey nofun
  | task handler handled => exact ⟨handler, handled, reaches.of_add⟩

end Dispatcher

end RpcDispatch
