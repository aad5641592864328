import RpcDispatch.Proofs.Dispatch.Routing
import RpcDispatch.Proofs.Task.Account

/-
This file ties the account of the task manager to the requests that came.  Every request that an
entrypoint handles becomes one task, so the tasks that were added can be read off the requests.
-/

namespace RpcDispatch.Dispatcher

open Exchange (Leads)

variable {σ : Type} {dispatcher : Dispatcher σ} {since : Key} {manager : TaskManager σ}
  {exchange after : Exchange σ} {hooks : Hook → Prop}

/-- The task that a request becomes, if an entrypoint handles it. -/
def task? (dispatcher : Dispatcher σ) (key : Key) (request : Request) :
    Option (RequestTask σ) :=
  (dispatcher.handler? request).map (.create key request ·)

/-- The tasks of the requests from the key `since` on, in their order. -/
def enlisted (dispatcher : Dispatcher σ) (since : Key) (requests : List Request) :
    List (RequestTask σ) :=
  requests.zipIdx.filterMap fun (request, key) =>
    if since ≤ key then dispatcher.task? key request else none

/-- A task is enlisted when it is what the dispatcher makes of a request that is recent enough. -/
theorem mem_enlisted {requests : List Request} {task : RequestTask σ} :
    task ∈ dispatcher.enlisted since requests ↔
      since ≤ task.key ∧ requests[task.key]? = some task.request ∧
        dispatcher.task? task.key task.request = some task := by
  have fields (key : Key) (request : Request) (found : dispatcher.task? key request = some task) :
      task.key = key ∧ task.request = request := by
    obtain ⟨entrypoint, _, same⟩ := Option.map_eq_some_iff.mp found
    rw [← same]
    exact ⟨rfl, rfl⟩
  simp only [enlisted, List.mem_filterMap, Prod.exists, List.mem_zipIdx_iff_getElem?]
  constructor
  · rintro ⟨request, key, found, listed⟩
    split_ifs at listed with recent
    obtain ⟨rfl, rfl⟩ := fields key request listed
    exact ⟨recent, found, listed⟩
  · rintro ⟨recent, found, listed⟩
    exact ⟨task.request, task.key, found, by rw [if_pos recent, listed]⟩

/-- Every task has a key of one of the requests. -/
theorem enlisted_key_lt {requests : List Request} {task : RequestTask σ}
    (member : task ∈ dispatcher.enlisted since requests) : task.key < requests.length :=
  (List.getElem?_eq_some_iff.mp (mem_enlisted.mp member).2.1).1

/-- A further request enlists what the dispatcher makes of it. -/
theorem enlisted_append (requests : List Request) (request : Request)
    (recent : since ≤ requests.length) :
    dispatcher.enlisted since (requests ++ [request]) =
      dispatcher.enlisted since requests ++ (dispatcher.task? requests.length request).toList := by
  cases found : dispatcher.task? requests.length request <;>
    simp [enlisted, List.zipIdx_append, List.filterMap_append, recent, found]

/-- The requests from `since` on that an entrypoint handles are the tasks that the manager
accounts for. -/
structure Keeps (dispatcher : Dispatcher σ) (since : Key) (manager : TaskManager σ)
    (exchange : Exchange σ) : Prop where
  recent : since ≤ exchange.requests.length
  accounts : manager.Accounts since (dispatcher.enlisted since exchange.requests) exchange

/-- A stretch that calls neither request nor disconnection hooks keeps the account of the
dispatcher. -/
theorem Keeps.quiet (keeps : dispatcher.Keeps since manager exchange)
    (leads : Leads anyKey hooks exchange after)
    (calm : ∀ key, ¬ hooks (.request key) ∧ ¬ hooks (.disconnect key)) :
    dispatcher.Keeps since manager after := by
  have requests := leads.requests exchange.othersCloseOnly_anyKey
  refine ⟨requests ▸ keeps.recent, ?_⟩
  rw [requests]
  exact keeps.accounts.quiet leads calm

/-- Every held task is for one of the requests that came. -/
theorem Keeps.held_lt {queued pending : List (RequestTask σ)}
    (keeps : dispatcher.Keeps since ⟨queued.map .request, pending.map .request⟩ exchange) :
    ∀ task ∈ queued ++ pending, task.key < exchange.channels.length := by
  obtain ⟨waiting, running, same, ledger, _⟩ := keeps.accounts
  have lists : waiting = queued ∧ running = pending := by
    simp only [TaskManager.mk.injEq] at same
    rw [← filterMap_request waiting, ← filterMap_request running, ← same.1, ← same.2,
      filterMap_request, filterMap_request]
    exact ⟨rfl, rfl⟩
  obtain ⟨rfl, rfl⟩ := lists
  intro task member
  obtain ⟨first, listed, alike⟩ := ledger.origin task member
  rw [alike.key, ← exchange.length_requests]
  exact enlisted_key_lt listed

/-- An operation that opens no channel keeps the account when the manager does. -/
theorem Keeps.operate {changed : TaskManager σ} (keeps : dispatcher.Keeps since manager exchange)
    (leads : Leads anyKey hooks exchange after)
    (accounts : changed.Accounts since (dispatcher.enlisted since exchange.requests) after) :
    dispatcher.Keeps since changed after := by
  have requests := leads.requests exchange.othersCloseOnly_anyKey
  exact ⟨requests ▸ keeps.recent, requests ▸ accounts⟩

/-- A routed request is accounted for when it becomes a task. -/
theorem Keeps.route (keeps : dispatcher.Keeps since manager exchange) (request : Request)
    (notice : Log.Notice) :
    let outcome := dispatcher.route exchange.channels.length request manager
      ((exchange.enroll request).2.log notice)
    dispatcher.Keeps since outcome.1 outcome.2 := by
  intro outcome
  have log : Leads anyKey noHook (exchange.enroll request).2
      ((exchange.enroll request).2.log notice) := (Leads.refl _).log notice
  have accounts := (keeps.accounts.enroll request).quiet log fun _ => ⟨id, id⟩
  have requests : ((exchange.enroll request).2.log notice).requests =
      exchange.requests ++ [request] := exchange.enroll_requests request
  have recent : since ≤ ((exchange.enroll request).2.log notice).requests.length := by
    rw [requests, List.length_append]
    exact Nat.le_add_right_of_le keeps.recent
  have enlisted := dispatcher.enlisted_append exchange.requests request keeps.recent
  rw [exchange.length_requests] at enlisted
  -- a request without a handler adds no task
  have same (unhandled : dispatcher.handler? request = none) :
      dispatcher.Keeps since manager ((exchange.enroll request).2.log notice) := by
    refine ⟨recent, ?_⟩
    rw [requests, enlisted, task?, unhandled]
    simpa using accounts
  have step := dispatcher.route_step exchange.channels.length request manager
    ((exchange.enroll request).2.log notice)
  change RouteStep _ _ _ _ _ outcome at step
  generalize outcome = result at step ⊢
  cases step with
  | answer unhandled reported report act answers =>
      have answered : Leads anyKey noHook ((exchange.enroll request).2.log notice)
          (reported.pause.perform act) := by
        rcases report with rfl | ⟨notice, rfl⟩
        · exact answers.leads _
        · exact ((Leads.refl _).log notice).trans (answers.leads _)
      exact (same unhandled).quiet answered fun _ => ⟨id, id⟩
  | cancel unhandled id act answers =>
      have kept := same unhandled
      have cancelled := kept.operate
        (kept.accounts.cancel_leads (tasksCloseOnly_anyKey _) request.client id)
        (kept.accounts.cancel request.client id)
      have answered : Leads anyKey noHook
          (manager.cancel request.client id ((exchange.enroll request).2.log notice)).2.2 _ :=
        answers.leads _
      exact cancelled.quiet answered (by simp)
  | task entrypoint handled =>
      have found : ((exchange.enroll request).2.log notice).requests[exchange.channels.length]? =
          some request := by
        simp [requests, ← exchange.length_requests]
      have new : ∀ task ∈ dispatcher.enlisted since exchange.requests,
          task.key ≠ exchange.channels.length := by
        intro task member here
        have bound := enlisted_key_lt member
        rw [here, exchange.length_requests] at bound
        exact Nat.lt_irrefl _ bound
      have added := accounts.add exchange.channels.length request entrypoint
        (exchange.length_requests ▸ keeps.recent) found new
      have leads := accounts.add_leads
        (.create exchange.channels.length request entrypoint) entrypoint.closesOnly_anyKey
      have later := leads.requests (Exchange.othersCloseOnly_anyKey _)
      refine ⟨later ▸ recent, ?_⟩
      rw [later, requests, enlisted, task?, handled]
      exact added

/-- A frame that is dispatched keeps the account. -/
theorem Keeps.dispatchRequest (keeps : dispatcher.Keeps since manager exchange)
    (raw : RawRequest) :
    dispatcher.Keeps since (dispatcher.dispatchRequest raw manager exchange).1
      (dispatcher.dispatchRequest raw manager exchange).2 := by
  rcases dispatcher.dispatchRequest_cases dispatcher.closesOnly_anyKey raw manager exchange with
    ⟨request, notice, _, same⟩ | ⟨_, after, same, leads⟩
  · rw [same]
    exact keeps.route request notice
  · rw [same]
    exact keeps.quiet leads fun _ => ⟨id, id⟩

theorem Keeps.log (keeps : dispatcher.Keeps since manager exchange) (notice : Log.Notice) :
    dispatcher.Keeps since manager (exchange.log notice) := by
  have leads : Leads anyKey noHook exchange (exchange.log notice) :=
    (Leads.refl exchange).log notice
  exact keeps.quiet leads fun _ => ⟨id, id⟩

/-- A disconnection keeps the account of the dispatcher. -/
theorem Keeps.disconnect (keeps : dispatcher.Keeps since manager exchange) (client : ClientId) :
    dispatcher.Keeps since (manager.disconnect client exchange).1
      (manager.disconnect client exchange).2 :=
  keeps.operate
    (keeps.accounts.disconnect_leads (tasksCloseOnly_anyKey _) client fun _ _ _ => trivial)
    (keeps.accounts.disconnect client)

/-- Running the queue keeps the account of the dispatcher. -/
theorem Keeps.runAll (keeps : dispatcher.Keeps since manager exchange) :
    dispatcher.Keeps since (manager.runAll exchange).1 (manager.runAll exchange).2 :=
  keeps.operate (keeps.accounts.runAll_leads (tasksCloseOnly_anyKey _)) keeps.accounts.runAll

/-- When all tasks are discarded, the account starts again with the next request. -/
theorem Keeps.discard (keeps : dispatcher.Keeps since manager exchange) :
    dispatcher.Keeps exchange.requests.length .empty exchange := by
  have none : dispatcher.enlisted exchange.requests.length exchange.requests = [] := by
    rw [List.eq_nil_iff_forall_not_mem]
    intro task member
    exact Nat.not_lt_of_le (mem_enlisted.mp member).1 (enlisted_key_lt member)
  refine ⟨Nat.le_refl _, ?_⟩
  rw [none]
  refine TaskManager.accounts_empty exchange fun key beyond => ?_
  refine keeps.accounts.fresh (Nat.le_trans keeps.recent beyond) fun task member same => ?_
  exact Nat.not_lt_of_le beyond (same ▸ enlisted_key_lt member)

/-- Dispatching frames keeps the account of the dispatcher. -/
theorem Keeps.routeAll (keeps : dispatcher.Keeps since manager exchange)
    (raws : List RawRequest) :
    dispatcher.Keeps since (dispatcher.routeAll raws (manager, exchange)).1
      (dispatcher.routeAll raws (manager, exchange)).2 := by
  induction raws generalizing manager exchange with
  | nil => exact keeps
  | cons raw raws ih => exact ih (keeps.dispatchRequest raw)

/-- Disconnections keep the account of the dispatcher. -/
theorem Keeps.leaveAll (keeps : dispatcher.Keeps since manager exchange)
    (clients : List ClientId) :
    dispatcher.Keeps since (leaveAll clients (manager, exchange)).1
      (leaveAll clients (manager, exchange)).2 := by
  induction clients generalizing manager exchange with
  | nil => exact keeps
  | cons client clients ih => exact ih ((keeps.log _).disconnect client)

end RpcDispatch.Dispatcher
