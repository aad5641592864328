import RpcDispatch.Proofs.Dispatch.Enlisted

/-
This file follows one request through an iteration.  After it has been routed it is answered, or a
task that will answer it waits in the queue, and nothing that comes later changes that.
-/

namespace RpcDispatch.Dispatcher

open Exchange (Leads Grows)

variable {σ : Type} {closes : Key → Prop} {dispatcher : Dispatcher σ} {since : Key}
  {manager : TaskManager σ} {exchange : Exchange σ}

/-- The request is answered without its entrypoint, or by a synchronous entrypoint that answers or
fails on every path. -/
def Settles (dispatcher : Dispatcher σ) (key : Key) (request : Request) : Prop :=
  ∀ entrypoint, dispatcher.handler? request = some entrypoint →
    entrypoint.isAsync = false ∧ (entrypoint.onRequest key request).Answers key request

/-- The request is answered, or a task that has not been touched will answer it. -/
inductive Due (key : Key) (request : Request) (manager : TaskManager σ) (exchange : Exchange σ) :
    Prop where
  | answered (done : exchange.isAnswered key = true)
  | waiting (entrypoint : Entrypoint σ) (awaits : exchange.Awaits key request)
      (queued : .request (.create key request entrypoint) ∈ manager.queue)
      (sync : entrypoint.isAsync = false)
      (answers : (entrypoint.onRequest key request).Answers key request)

/-! ### Growth -/

theorem Keeps.tasksCloseOnly (allowed : dispatcher.ClosesOnly closes) (requests : List Request) :
    TasksCloseOnly closes (dispatcher.enlisted since requests) := by
  intro task member
  obtain ⟨entrypoint, handled, same⟩ := Option.map_eq_some_iff.mp (mem_enlisted.mp member).2.2
  rw [← same]
  exact allowed.entrypoints entrypoint (handler?_mem handled)

/-- Routing a new request is a stretch that calls its own request hook and cancel hooks, and no
other hook. -/
theorem Keeps.route_leads (keeps : dispatcher.Keeps since manager exchange)
    (allowed : dispatcher.ClosesOnly closes) (request : Request) (notice : Log.Notice) :
    Leads closes (fun hook => hook = .request exchange.channels.length ∨ ∃ key, hook = .cancel key)
      ((exchange.enroll request).2.log notice)
      (dispatcher.route exchange.channels.length request manager
        ((exchange.enroll request).2.log notice)).2 := by
  have log : Leads anyKey noHook (exchange.enroll request).2
      ((exchange.enroll request).2.log notice) := (Leads.refl _).log notice
  have accounts := (keeps.accounts.enroll request).quiet log fun _ => ⟨id, id⟩
  have step := dispatcher.route_step exchange.channels.length request manager
    ((exchange.enroll request).2.log notice)
  generalize dispatcher.route exchange.channels.length request manager
    ((exchange.enroll request).2.log notice) = result at step ⊢
  cases step with
  | answer unhandled reported report act answers =>
      rcases report with rfl | ⟨notice, rfl⟩
      · exact answers.leads _
      · exact ((Leads.refl _).log notice).trans (answers.leads _)
  | cancel unhandled id act answers =>
      have cancels := accounts.cancel_leads (Keeps.tasksCloseOnly allowed _) request.client id
      exact (cancels.widen fun _ => .inr).trans (answers.leads _)
  | task entrypoint handled =>
      exact (accounts.add_leads (.create exchange.channels.length request entrypoint)
        (allowed.entrypoints entrypoint (handler?_mem handled))).widen fun _ => .inl

/-- Dispatching a frame adds the request that it is accepted as, if there is one. -/
theorem Keeps.dispatchRequest_grows (keeps : dispatcher.Keeps since manager exchange)
    (allowed : dispatcher.ClosesOnly closes) (raw : RawRequest) :
    Grows closes exchange (dispatcher.dispatchRequest raw manager exchange).2 := by
  rcases dispatcher.dispatchRequest_cases allowed raw manager exchange with
    ⟨request, notice, _, same⟩ | ⟨_, after, same, leads⟩
  · rw [same]
    have log : Leads closes anyHook (exchange.enroll request).2
        ((exchange.enroll request).2.log notice) := (Leads.refl _).log notice
    exact (exchange.enroll_grows request).trans
      (log.grows.trans (keeps.route_leads allowed request notice).grows)
  · rw [same]
    exact leads.grows

theorem Keeps.dispatchRequest_requests (keeps : dispatcher.Keeps since manager exchange)
    (raw : RawRequest) :
    (dispatcher.dispatchRequest raw manager exchange).2.requests =
      exchange.requests ++ raw.request?.toList := by
  rcases dispatcher.dispatchRequest_cases dispatcher.closesOnly_anyKey raw manager exchange with
    ⟨request, notice, accepted, same⟩ | ⟨refused, after, same, leads⟩
  · have routed := keeps.route_leads dispatcher.closesOnly_anyKey request notice
    rw [same, routed.requests (Exchange.othersCloseOnly_anyKey _), accepted]
    exact exchange.enroll_requests request
  · rw [same, leads.requests exchange.othersCloseOnly_anyKey, refused]
    simp

theorem Keeps.routeAll_grows (keeps : dispatcher.Keeps since manager exchange)
    (allowed : dispatcher.ClosesOnly closes) (raws : List RawRequest) :
    Grows closes exchange (dispatcher.routeAll raws (manager, exchange)).2 := by
  induction raws generalizing manager exchange with
  | nil => exact .refl exchange
  | cons raw raws ih =>
      exact (keeps.dispatchRequest_grows allowed raw).trans (ih (keeps.dispatchRequest raw))

/-- Routing frames adds the requests that they are accepted as, in their order. -/
theorem Keeps.routeAll_requests (keeps : dispatcher.Keeps since manager exchange)
    (raws : List RawRequest) :
    (dispatcher.routeAll raws (manager, exchange)).2.requests =
      exchange.requests ++ raws.filterMap RawRequest.request? := by
  induction raws generalizing manager exchange with
  | nil => simp [Dispatcher.routeAll]
  | cons raw raws ih =>
      have later := ih (keeps.dispatchRequest raw)
      rw [keeps.dispatchRequest_requests raw, List.append_assoc] at later
      rw [List.filterMap_cons]
      cases accepted : raw.request? with
      | none => simpa [Dispatcher.routeAll, accepted] using later
      | some request => simpa [Dispatcher.routeAll, accepted] using later

/-- A client that leaves closes its own requests. -/
theorem Keeps.disconnect_leads (keeps : dispatcher.Keeps since manager exchange)
    (allowed : dispatcher.ClosesOnly closes) (client : ClientId)
    (own : ∀ key request, exchange.requests[key]? = some request → request.client = client →
      closes key) : Leads closes anyHook exchange (manager.disconnect client exchange).2 :=
  (keeps.accounts.disconnect_leads (Keeps.tasksCloseOnly allowed _) client fun task member =>
    own task.key task.request (mem_enlisted.mp member).2.1).any

theorem Keeps.leaveAll_leads (keeps : dispatcher.Keeps since manager exchange)
    (allowed : dispatcher.ClosesOnly closes) (clients : List ClientId)
    (own : ∀ key request, exchange.requests[key]? = some request → request.client ∈ clients →
      closes key) : Leads closes anyHook exchange
      (Dispatcher.leaveAll clients (manager, exchange)).2 := by
  induction clients generalizing manager exchange with
  | nil => exact .refl exchange
  | cons client clients ih =>
      have logged := keeps.log (.clientDisconnected client)
      have log : Leads closes anyHook exchange (exchange.log (.clientDisconnected client)) :=
        (Leads.refl exchange).log _
      have first := logged.disconnect_leads allowed client fun key request found leaves =>
        own key request found (by simp [leaves])
      have requests := (logged.disconnect_leads dispatcher.closesOnly_anyKey client
        fun _ _ _ _ => trivial).requests (Exchange.othersCloseOnly_anyKey _)
      refine (log.trans first).trans (ih (logged.disconnect client) fun key request found gone => ?_)
      rw [requests] at found
      exact own key request found (List.mem_cons_of_mem _ gone)

/-! ### One request -/

/-- A routed request is due. -/
theorem Keeps.route_due (keeps : dispatcher.Keeps since manager exchange)
    (allowed : dispatcher.ClosesOnly closes) (within : exchange.OthersCloseOnly closes)
    (barred : ¬ closes exchange.channels.length) (request : Request) (notice : Log.Notice)
    (expected : request.isNotification = false)
    (settles : dispatcher.Settles exchange.channels.length request) :
    let outcome := dispatcher.route exchange.channels.length request manager
      ((exchange.enroll request).2.log notice)
    Due exchange.channels.length request outcome.1 outcome.2 := by
  intro outcome
  have logged : Leads closes anyHook (exchange.enroll request).2
      ((exchange.enroll request).2.log notice) := (Leads.refl _).log notice
  have start : (exchange.enroll request).2.OthersCloseOnly closes := within
  have awaits := (exchange.enroll_awaits expected).leads logged start barred
  have closed := logged.othersCloseOnly start
  have log : Leads anyKey noHook (exchange.enroll request).2
      ((exchange.enroll request).2.log notice) := (Leads.refl _).log notice
  have accounts := (keeps.accounts.enroll request).quiet log fun _ => ⟨id, id⟩
  have step := dispatcher.route_step exchange.channels.length request manager
    ((exchange.enroll request).2.log notice)
  change RouteStep _ _ _ _ _ outcome at step
  generalize outcome = result at step ⊢
  generalize (exchange.enroll request).2.log notice = opened at awaits closed accounts step
  cases step with
  | answer unhandled reported report act answers =>
      have turn : Leads closes anyHook opened reported.pause := by
        rcases report with rfl | ⟨notice, rfl⟩
        · exact (Leads.refl _).pause
        · exact ((Leads.refl _).log notice).pause
      exact .answered ((awaits.leads turn closed barred).perform answers)
  | cancel unhandled id act answers =>
      have cancelled := (accounts.cancel_leads (Keeps.tasksCloseOnly allowed _) request.client
        id).pause
      exact .answered ((awaits.leads cancelled closed barred).perform answers)
  | task entrypoint handled =>
      obtain ⟨sync, answers⟩ := settles entrypoint handled
      obtain ⟨queued, pending, rfl, _, _⟩ := accounts
      have free := allowed.entrypoints entrypoint (handler?_mem handled)
      cases priority : entrypoint.hasPriority with
      | true =>
          have report : Leads closes anyHook opened
              (opened.log (.runningPriority request.client request.method)) :=
            (Leads.refl opened).log _
          have inside := report.othersCloseOnly closed
          have ran := RequestTask.run_answers
            (.create exchange.channels.length request entrypoint) RequestTask.create_fresh answers
            free barred inside (awaits.leads report closed barred)
          rw [TaskManager.add_priority queued pending _ _ priority]
          exact .answered (Exchange.pause_answered _ ran)
      | false =>
          have report : Leads closes anyHook opened
              (opened.log (.queued request.client request.method (queued.length + 1))) :=
            (Leads.refl opened).log _
          rw [TaskManager.add_waiting queued pending _ _ priority]
          exact .waiting entrypoint (awaits.leads report closed barred) (by simp) sync answers

/-- The request of an accepted frame is due when the frame has been dispatched. -/
theorem Keeps.dispatchRequest_due (keeps : dispatcher.Keeps since manager exchange)
    (allowed : dispatcher.ClosesOnly closes) (within : exchange.OthersCloseOnly closes)
    (barred : ¬ closes exchange.channels.length) {raw : RawRequest} {request : Request}
    (accepted : raw.request? = some request) (expected : request.isNotification = false)
    (settles : dispatcher.Settles exchange.channels.length request) :
    Due exchange.channels.length request (dispatcher.dispatchRequest raw manager exchange).1
      (dispatcher.dispatchRequest raw manager exchange).2 := by
  rcases dispatcher.dispatchRequest_cases allowed raw manager exchange with
    ⟨other, notice, found, same⟩ | ⟨refused, _⟩
  · rw [accepted] at found
    cases found
    rw [same]
    exact keeps.route_due allowed within barred request notice expected settles
  · rw [accepted] at refused
    cases refused

/-- A due request stays due when another frame is dispatched. -/
theorem Due.dispatchRequest {key : Key} {request : Request} (due : Due key request manager exchange)
    (keeps : dispatcher.Keeps since manager exchange) (allowed : dispatcher.ClosesOnly closes)
    (within : exchange.OthersCloseOnly closes) (barred : ¬ closes key) (raw : RawRequest) :
    Due key request (dispatcher.dispatchRequest raw manager exchange).1
      (dispatcher.dispatchRequest raw manager exchange).2 := by
  have grows := keeps.dispatchRequest_grows allowed raw
  cases due with
  | answered done => exact .answered (grows.answered within done)
  | waiting entrypoint awaits queued sync answers =>
      refine .waiting entrypoint (awaits.grows grows within barred) ?_ sync answers
      rcases dispatcher.dispatchRequest_cases allowed raw manager exchange with
        ⟨other, notice, _, same⟩ | ⟨_, after, same, leads⟩
      · rw [same]
        have step := dispatcher.route_step exchange.channels.length other manager
          ((exchange.enroll other).2.log notice)
        generalize dispatcher.route exchange.channels.length other manager
          ((exchange.enroll other).2.log notice) = result at step ⊢
        cases step with
        | answer unhandled reported report act acts => exact queued
        | cancel unhandled id act acts => exact TaskManager.mem_cancel_queue queued sync _ id
        | task handler handled => exact TaskManager.mem_add_queue queued _
      · rw [same]
        exact queued

/-- A due request stays due when another client leaves. -/
theorem Due.disconnect {key : Key} {request : Request} (due : Due key request manager exchange)
    {client : ClientId} (stays : request.client ≠ client)
    (leads : Leads closes anyHook exchange (manager.disconnect client exchange).2)
    (within : exchange.OthersCloseOnly closes) (barred : ¬ closes key) :
    Due key request (manager.disconnect client exchange).1
      (manager.disconnect client exchange).2 := by
  cases due with
  | answered done => exact .answered (leads.answered within done)
  | waiting entrypoint awaits queued sync answers =>
      exact .waiting entrypoint (awaits.leads leads within barred)
        (TaskManager.mem_disconnect_queue queued stays) sync answers

/-- A due request stays due while the tasks stay as they are. -/
theorem Due.leads {key : Key} {request : Request} {after : Exchange σ}
    (due : Due key request manager exchange) (leads : Leads closes anyHook exchange after)
    (within : exchange.OthersCloseOnly closes) (barred : ¬ closes key) :
    Due key request manager after := by
  cases due with
  | answered done => exact .answered (leads.answered within done)
  | waiting entrypoint awaits queued sync answers =>
      exact .waiting entrypoint (awaits.leads leads within barred) queued sync answers

theorem Due.routeAll {key : Key} {request : Request} (due : Due key request manager exchange)
    (keeps : dispatcher.Keeps since manager exchange) (allowed : dispatcher.ClosesOnly closes)
    (within : exchange.OthersCloseOnly closes) (barred : ¬ closes key) (raws : List RawRequest) :
    Due key request (dispatcher.routeAll raws (manager, exchange)).1
      (dispatcher.routeAll raws (manager, exchange)).2 := by
  induction raws generalizing manager exchange with
  | nil => exact due
  | cons raw raws ih =>
      exact ih (due.dispatchRequest keeps allowed within barred raw) (keeps.dispatchRequest raw)
        ((keeps.dispatchRequest_grows allowed raw).othersCloseOnly within)

/-- A due request stays due when clients leave, but for its own. -/
theorem Due.leaveAll {key : Key} {request : Request} (due : Due key request manager exchange)
    (keeps : dispatcher.Keeps since manager exchange) (allowed : dispatcher.ClosesOnly (· ≠ key))
    (within : exchange.OthersCloseOnly (· ≠ key))
    (enrolled : exchange.requests[key]? = some request) (clients : List ClientId)
    (stays : request.client ∉ clients) :
    Due key request (Dispatcher.leaveAll clients (manager, exchange)).1
      (Dispatcher.leaveAll clients (manager, exchange)).2 := by
  induction clients generalizing manager exchange with
  | nil => exact due
  | cons client clients ih =>
      simp only [List.mem_cons, not_or] at stays
      have logged := keeps.log (.clientDisconnected client)
      have log : Leads (· ≠ key) anyHook exchange (exchange.log (.clientDisconnected client)) :=
        (Leads.refl exchange).log _
      have leads := logged.disconnect_leads allowed client fun other owner found leaves here => by
        have kept : exchange.requests[other]? = some owner := found
        rw [here, enrolled] at kept
        cases kept
        exact stays.1 leaves
      have reported := due.leads log within (by simp)
      have start := log.othersCloseOnly within
      have later := reported.disconnect stays.1 leads start (by simp)
      have kept := (congrArg (·[key]?) (leads.requests start)).trans enrolled
      exact ih later (logged.disconnect client) (leads.othersCloseOnly start) kept stays.2

/-- When the queue has been run, a due request is answered. -/
theorem Due.runAll {key : Key} {request : Request} (due : Due key request manager exchange)
    (keeps : dispatcher.Keeps since manager exchange) (allowed : dispatcher.ClosesOnly closes)
    (within : exchange.OthersCloseOnly closes) (barred : ¬ closes key) :
    (manager.runAll exchange).2.isAnswered key = true := by
  have run := keeps.accounts.runAll_leads (Keeps.tasksCloseOnly allowed _)
  cases due with
  | answered done => exact run.answered within done
  | waiting entrypoint awaits queued sync answers =>
      obtain ⟨waiting, pending, rfl, ledger, _⟩ := keeps.accounts
      obtain ⟨_, member, ⟨⟩⟩ := List.mem_map.mp queued
      have free : TasksCloseOnly closes waiting := fun task held =>
        ledger.tasksCloseOnly (Keeps.tasksCloseOnly allowed _) task (by simp [held])
      have drained := TaskManager.drain_answers pending member RequestTask.create_fresh answers
        free barred within awaits
      exact TaskManager.keepPending_answered _ _ drained

end RpcDispatch.Dispatcher
