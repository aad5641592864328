import RpcDispatch.Proofs.Dispatch.Answering
import RpcDispatch.Proofs.Service.Run

/-
This file shows that the service gives every request exactly one answer.
-/

namespace RpcDispatch

open Exchange (Leads Grows)

variable {σ : Type}

/-- The requests that frames are accepted as, in order. -/
def accepted (raws : List RawRequest) : List Request :=
  raws.filterMap RawRequest.request?

theorem accepted_append (first second : List RawRequest) :
    accepted (first ++ second) = accepted first ++ accepted second :=
  List.filterMap_append

/-- The request of a frame comes after the requests of the frames before it. -/
theorem accepted_split {raw : RawRequest} {request : Request} (front rest : List RawRequest)
    (found : raw.request? = some request) :
    (accepted (front ++ raw :: rest))[(accepted front).length]? = some request := by
  rw [accepted_append, List.getElem?_append_right (Nat.le_refl _)]
  simp [accepted, found]

namespace Service

variable {dispatcher : Dispatcher σ} {taken : List RawRequest} {since : Key}
  {service : Service σ}

/-! ### At most one answer -/

/-- The tail of an iteration runs the tasks and updates the entrypoints. -/
theorem tail_leads {closes : Key → Prop} {manager : TaskManager σ} {exchange : Exchange σ}
    (keeps : dispatcher.Keeps since manager exchange) (allowed : dispatcher.ClosesOnly closes) :
    Leads closes anyHook exchange
      (dispatcher.registry.update (manager.runAll exchange).2) :=
  (keeps.accounts.runAll_leads (Dispatcher.Keeps.tasksCloseOnly allowed _)).any.trans
    (dispatcher.registry.update_leads _ allowed.entrypoints).any

/-- What the events of an iteration do is growth, by the requests that it takes. -/
theorem handled_grows
    (keeps : service.dispatcher.Keeps since service.manager service.exchange) (inbox : Inbox) :
    Grows anyKey service.exchange (service.handled inbox).2 ∧
      (service.handled inbox).2.requests = service.exchange.requests ++ accepted inbox.requests := by
  have greeted : Leads anyKey noHook service.exchange (service.greeted inbox).2 :=
    service.greeted_leads inbox
  have start := greeted_keeps keeps inbox
  have routed := start.routeAll_grows service.dispatcher.closesOnly_anyKey inbox.requests
  have left := (routed_keeps keeps inbox).leaveAll_leads service.dispatcher.closesOnly_anyKey
    inbox.disconnected fun _ _ _ _ => trivial
  rw [handled_eq_leaveAll]
  refine ⟨(greeted.grows.trans routed).trans left.grows, ?_⟩
  rw [left.requests (Exchange.othersCloseOnly_anyKey _),
    ← greeted.requests service.exchange.othersCloseOnly_anyKey]
  exact start.routeAll_requests inbox.requests

/-- What an iteration does is growth, by the requests that it takes. -/
theorem process_grows
    (keeps : service.dispatcher.Keeps since service.manager service.exchange) (inbox : Inbox) :
    Grows anyKey service.exchange (service.process inbox).exchange ∧
      (service.process inbox).exchange.requests =
        service.exchange.requests ++ accepted inbox.requests := by
  obtain ⟨grows, requests⟩ := handled_grows keeps inbox
  have rest := tail_leads (handled_keeps keeps inbox) service.dispatcher.closesOnly_anyKey
  rw [process_eq_handled]
  refine ⟨grows.trans rest.grows, ?_⟩
  rw [← requests]
  exact rest.requests (Exchange.othersCloseOnly_anyKey _)

theorem poll_accurate
    (keeps : service.dispatcher.Keeps since service.manager service.exchange)
    (accurate : service.exchange.Accurate) (requests : service.exchange.requests = accepted taken) :
    service.poll.exchange.Accurate ∧
      service.poll.exchange.requests = accepted (taken ++ service.inbox.requests) := by
  have emptied : ({ service with inbox := .empty } : Service σ).dispatcher.Keeps since
      service.manager service.exchange := keeps
  obtain ⟨grows, later⟩ := process_grows emptied service.inbox
  refine ⟨accurate.grow grows, later.trans ?_⟩
  rw [requests]
  simp [accepted]

/-- Every run keeps its texts in order, and its requests are those of the frames it has taken. -/
theorem Run.accurate (run : Run dispatcher taken since service) :
    service.exchange.Accurate ∧ service.exchange.requests = accepted taken := by
  have stretch {before after : Exchange σ} (leads : Leads anyKey anyHook before after)
      {taken : List RawRequest} (ih : before.Accurate ∧ before.requests = accepted taken) :
      after.Accurate ∧ after.requests = accepted taken :=
    ⟨ih.1.grow leads.grows, (leads.requests before.othersCloseOnly_anyKey).trans ih.2⟩
  induction run using Run.induction with
  | create state senders others => exact ⟨Exchange.accurate_start state senders others, rfl⟩
  | notify arrival _ ih => exact stretch ((Leads.refl _).log arrival.notice) ih
  | act act _ ih => exact stretch ((Leads.refl _).perform act fun _ _ => trivial) ih
  | poll run ih => exact poll_accurate run.keeps ih.1 ih.2
  | @shutdown _ _ service _ ih =>
      exact stretch ((Leads.refl _).log (.shuttingDown service.manager.size)) ih

/-! ### The answer of an iteration -/

/-- A request of an inbox is due when the events have been handled. -/
theorem handled_due
    (keeps : service.dispatcher.Keeps since service.manager service.exchange) (inbox : Inbox)
    {key : Key} (allowed : service.dispatcher.ClosesOnly (· ≠ key))
    (within : service.exchange.OthersCloseOnly (· ≠ key))
    {front rest : List RawRequest} {raw : RawRequest} {request : Request}
    (split : inbox.requests = front ++ raw :: rest) (found : raw.request? = some request)
    (position : key = service.exchange.requests.length + (accepted front).length)
    (expected : request.isNotification = false) (stays : raw.client ∉ inbox.disconnected)
    (settles : service.dispatcher.Settles key request) :
    Dispatcher.Due key request (service.handled inbox).1 (service.handled inbox).2 ∧
      (service.handled inbox).2.OthersCloseOnly (· ≠ key) := by
  have logged := greeted_keeps keeps inbox
  have greeted : Leads anyKey noHook service.exchange (service.greeted inbox).2 :=
    service.greeted_leads inbox
  have reported := greeted.requests service.exchange.othersCloseOnly_anyKey
  have report : Leads (· ≠ key) noHook service.exchange (service.greeted inbox).2 :=
    service.greeted_leads inbox
  have start := report.othersCloseOnly within
  -- the request is due once its own frame has been dispatched
  have keepsFront := logged.routeAll front
  have startFront := (logged.routeAll_grows allowed front).othersCloseOnly start
  have size : (service.dispatcher.routeAll front (service.greeted inbox)).2.channels.length =
      key := by
    rw [← Exchange.length_requests]
    exact (congrArg List.length (logged.routeAll_requests front)).trans
      (by rw [List.length_append, reported, position]; rfl)
  have due := keepsFront.dispatchRequest_due allowed startFront (by simp [size]) found expected
    (by rw [size]; exact settles)
  rw [size] at due
  have keepsRaw := keepsFront.dispatchRequest raw
  have startRaw := (keepsFront.dispatchRequest_grows allowed raw).othersCloseOnly startFront
  -- it stays due over the frames that follow, and when other clients leave
  have later := due.routeAll keepsRaw allowed startRaw (by simp) rest
  have whole : service.routed inbox =
      service.dispatcher.routeAll rest (service.dispatcher.dispatchRequest raw
        (service.dispatcher.routeAll front (service.greeted inbox)).1
        (service.dispatcher.routeAll front (service.greeted inbox)).2) := by
    unfold routed
    rw [split, Dispatcher.routeAll_append]
    rfl
  have keepsAll := routed_keeps keeps inbox
  have startAll := (logged.routeAll_grows allowed inbox.requests).othersCloseOnly start
  have enrolled : (service.routed inbox).2.requests[key]? = some request := by
    refine (congrArg (·[key]?) (logged.routeAll_requests inbox.requests)).trans ?_
    rw [reported, position, List.getElem?_append_right (by simp), split, Nat.add_sub_cancel_left]
    exact accepted_split front rest found
  have client : request.client ∉ inbox.disconnected := by
    rw [RawRequest.request?_client found]
    exact stays
  have left := keepsAll.leaveAll_leads allowed inbox.disconnected fun other owner known gone => by
    rintro rfl
    rw [enrolled] at known
    cases known
    exact client gone
  rw [handled_eq_leaveAll]
  refine ⟨?_, left.othersCloseOnly startAll⟩
  refine Dispatcher.Due.leaveAll ?_ keepsAll allowed startAll enrolled inbox.disconnected client
  rw [whole]
  exact later

/-- A request that its method settles is answered by the end of the iteration that takes it. -/
theorem process_answers
    (keeps : service.dispatcher.Keeps since service.manager service.exchange)
    (allowed : service.dispatcher.ClosesOnly noKey)
    (within : service.exchange.OthersCloseOnly noKey) (inbox : Inbox)
    {front rest : List RawRequest} {raw : RawRequest} {request : Request}
    (split : inbox.requests = front ++ raw :: rest) (found : raw.request? = some request)
    (expected : request.isNotification = false) (stays : raw.client ∉ inbox.disconnected)
    (settles : service.dispatcher.Settles
      (service.exchange.requests.length + (accepted front).length) request) :
    (service.process inbox).exchange.isAnswered
      (service.exchange.requests.length + (accepted front).length) = true := by
  generalize position : service.exchange.requests.length + (accepted front).length = key
    at settles ⊢
  have free : service.dispatcher.ClosesOnly (· ≠ key) := allowed.mono fun _ => False.elim
  have closed : service.exchange.OthersCloseOnly (· ≠ key) := within.mono fun _ => False.elim
  obtain ⟨due, start⟩ :=
    handled_due keeps inbox free closed split found position.symm expected stays settles
  rw [process_eq_handled]
  exact service.dispatcher.registry.update_answered _
    (due.runAll (handled_keeps keeps inbox) free start (by simp))

/-- In every run a request has at most one answer, which goes to the client that sent the request
and carries its identifier, and nothing at all is sent for a notification.  Where no script closes
a request, an iteration answers what it takes from clients that stay, for built-in and unknown
methods and for synchronous entrypoints that answer or fail. -/
theorem exactly_one_answer (run : Run dispatcher taken since service) :
    (∀ front raw rest request, taken = front ++ raw :: rest → raw.request? = some request →
      (service.exchange.answersTo (accepted front).length).length ≤ 1 ∧
        (∀ delivery ∈ service.exchange.answersTo (accepted front).length,
          delivery.client = raw.client ∧ Rpc.IsAnswer request.id delivery.text) ∧
        (request.isNotification = true →
          service.exchange.textsFor (accepted front).length = [])) ∧
    ∀ inbox, dispatcher.ClosesOnly noKey → service.exchange.OthersCloseOnly noKey →
      ∀ front raw rest request, inbox.requests = front ++ raw :: rest →
        raw.request? = some request → request.isNotification = false →
        raw.client ∉ inbox.disconnected →
        dispatcher.Settles (accepted (taken ++ front)).length request →
        ((service.process inbox).exchange.answersTo (accepted (taken ++ front)).length).length =
          1 := by
  obtain ⟨accurate, requests⟩ := run.accurate
  constructor
  · rintro front raw rest request rfl found
    have enrolled : service.exchange.requests[(accepted front).length]? = some request := by
      rw [requests]
      exact accepted_split front rest found
    rw [← RawRequest.request?_client found]
    exact accurate.texts enrolled
  · intro inbox allowed within front raw rest request split found expected stays settles
    have keeps := run.keeps
    obtain ⟨grows, _⟩ := process_grows keeps inbox
    have later := accurate.grow grows
    rw [← run.dispatcher_eq] at allowed settles
    rw [accepted_append, List.length_append, ← requests] at settles ⊢
    rw [later.counted,
      if_pos (process_answers keeps allowed within inbox split found expected stays settles)]

/-- A method that replies and then panics. -/
def hastyEntrypoint : Entrypoint Unit :=
  { method := "hasty"
    onRequest := fun key _ => .act (.reply key (.ok .null)) (.done (.panic "late")) }

def hastyFrame : RawRequest :=
  ⟨⟨1⟩, (Rpc.Message.request "hasty" .null (.integer 1)).text.toUTF8.toList, .text⟩

/-- A service with this method to which a call was reported. -/
def hastyService : Service Unit :=
  (Service.create ⟨⟨builtinMethods, [hastyEntrypoint]⟩, none⟩ (.start () fun _ _ => none)).notify
    (.request hastyFrame)

/-- The first call has one answer, and so has a second one when it has been taken. -/
theorem exactly_one_answer_hasty :
    (hastyService.poll.exchange.answersTo 0).length ≤ 1 ∧
      ((hastyService.poll.process { Inbox.empty with requests := [hastyFrame] }).exchange.answersTo
        1).length = 1 := by
  have run : Run hastyService.dispatcher [hastyFrame] 0 hastyService.poll :=
    ((Run.create () (fun _ _ => none) []).notify (.request hastyFrame)).poll
  obtain ⟨request, found⟩ : ∃ request, hastyFrame.request? = some request :=
    Option.isSome_iff_exists.mp (by decide +kernel)
  have expected : request.isNotification = false := by
    have any : hastyFrame.request?.all (!·.isNotification) = true := by decide +kernel
    simpa [found] using any
  have only : ∀ entrypoint ∈ hastyService.dispatcher.registry.entrypoints,
      entrypoint = hastyEntrypoint := by
    intro entrypoint member
    exact List.mem_singleton.mp member
  have free : hastyService.dispatcher.ClosesOnly noKey := by
    refine ⟨fun entrypoint member => ?_, fun consumer none => by cases none⟩
    rw [only entrypoint member]
    exact ⟨fun _ _ => ⟨fun _ same => (by cases same), trivial⟩, trivial, trivial, trivial⟩
  have single : accepted [hastyFrame] = [request] := by simp [accepted, found]
  have settles : hastyService.dispatcher.Settles 1 request := by
    intro entrypoint handled
    rw [only entrypoint (Dispatcher.handler?_mem handled)]
    exact ⟨rfl, .inl (.inl ⟨_, rfl⟩)⟩
  have alone : hastyService.poll.exchange.others = [] :=
    List.isEmpty_iff.mp (by decide +kernel)
  obtain ⟨once, answered⟩ := exactly_one_answer run
  refine ⟨(once [] hastyFrame [] request rfl found).1, ?_⟩
  have second := answered { Inbox.empty with requests := [hastyFrame] } free
    (by simp [Exchange.OthersCloseOnly, alone]) [] hastyFrame [] request rfl found expected (by decide)
    (by simpa [single] using settles)
  simpa [single] using second

end Service

end RpcDispatch
