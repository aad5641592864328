import RpcDispatch.Dispatch
import RpcDispatch.Proofs.Task.Answering

/-
This file says where the dispatcher sends what comes in.  A frame is accepted as a request, or it
is no concern of the task manager; a request is answered at once, or it becomes a task.
-/

namespace RpcDispatch

open Exchange (Leads)

variable {σ : Type} {closes : Key → Prop} {hooks : Hook → Prop}

/-- The request that a frame is accepted as.  A raw chunk and a rejected payload are none. -/
def RawRequest.request? (raw : RawRequest) : Option Request :=
  match raw.framing, Rpc.split raw.payload raw.framing with
  | .binary, .error _ => none
  | .binary, .ok parts => if parts.isRawChunk then none else parsed
  | .text, _ => parsed
where
  parsed : Option Request :=
    match Rpc.Envelope.parse raw.payload raw.framing with
    | .error _ => none
    | .ok envelope => some ⟨raw.client, envelope.message, envelope.binary⟩

/-- The payload of an accepted frame was parsed as its request. -/
theorem RawRequest.parse_of_request? {raw : RawRequest} {request : Request}
    (accepted : raw.request? = some request) :
    ∃ envelope, Rpc.Envelope.parse raw.payload raw.framing = .ok envelope ∧
      request = ⟨raw.client, envelope.message, envelope.binary⟩ := by
  have parsed : RawRequest.request?.parsed raw = some request := by
    unfold request? at accepted
    split at accepted
    · cases accepted
    · split_ifs at accepted
      exact accepted
    · exact accepted
  unfold request?.parsed at parsed
  split at parsed
  · cases parsed
  · next envelope same =>
      cases parsed
      exact ⟨envelope, same, rfl⟩

/-- The client of an accepted request is the one that sent the frame. -/
theorem RawRequest.request?_client {raw : RawRequest} {request : Request}
    (accepted : raw.request? = some request) : request.client = raw.client := by
  obtain ⟨envelope, _, rfl⟩ := RawRequest.parse_of_request? accepted
  rfl

namespace Dispatcher

/-- The entrypoint that handles a request.  Built-in methods have none. -/
def handler? (dispatcher : Dispatcher σ) (request : Request) : Option (Entrypoint σ) :=
  if request.method ∈ builtinMethods then none else dispatcher.registry.find? request.method

/-- The handler of a request is an entrypoint of the registry. -/
theorem handler?_mem {dispatcher : Dispatcher σ} {request : Request} {entrypoint : Entrypoint σ}
    (found : dispatcher.handler? request = some entrypoint) :
    entrypoint ∈ dispatcher.registry.entrypoints := by
  unfold handler? at found
  split_ifs at found
  exact List.mem_of_find?_eq_some found

/-- The scripts of an application close no other requests than the given ones. -/
structure ClosesOnly (closes : Key → Prop) (dispatcher : Dispatcher σ) : Prop where
  entrypoints : ∀ entrypoint ∈ dispatcher.registry.entrypoints, entrypoint.ClosesOnly closes
  consumer : ∀ consumer, dispatcher.consumer = some consumer →
    ∀ client bytes, (consumer client bytes).ClosesOnly closes

/-- The entrypoints may be given more requests to close than they need. -/
theorem ClosesOnly.mono {wider : Key → Prop} {dispatcher : Dispatcher σ}
    (widens : ∀ key, closes key → wider key) (allowed : dispatcher.ClosesOnly closes) :
    dispatcher.ClosesOnly wider :=
  ⟨fun entrypoint member => (allowed.entrypoints entrypoint member).mono widens,
    fun consumer found client bytes => (allowed.consumer consumer found client bytes).mono widens⟩

theorem closesOnly_anyKey (dispatcher : Dispatcher σ) : dispatcher.ClosesOnly anyKey :=
  ⟨fun entrypoint _ => entrypoint.closesOnly_anyKey,
    fun _ _ _ _ => Script.closesOnly_anyKey _⟩

/-- Rejecting a payload ends in the attempt to send the error, with the turn of the other threads
and a report before it. -/
theorem reject_eq (client : ClientId) (id : Rpc.Id) (error : Rpc.Error) (exchange : Exchange σ) :
    let turned := (exchange.log (.rejected client id error)).pause
    let sent := (turned.attempt client (Rpc.errorText id error)).2
    reject client id error exchange = sent ∨
      ∃ fault, reject client id error exchange = sent.log (.rejectionUndelivered client fault) := by
  intro turned sent
  unfold reject
  dsimp only
  split
  · next result => exact .inl (congrArg Prod.snd result).symm
  · next fault after result =>
      have same : sent = after := congrArg Prod.snd result
      exact .inr ⟨fault, by rw [same]⟩

/-- Rejecting a payload is a stretch without calls. -/
theorem reject_leads (client : ClientId) (id : Rpc.Id) (error : Rpc.Error)
    (exchange : Exchange σ) : Leads closes hooks exchange (reject client id error exchange) := by
  have sent : Leads closes hooks exchange
      ((exchange.log (.rejected client id error)).pause.attempt client
        (Rpc.errorText id error)).2 :=
    (((Leads.refl exchange).log _).pause).move (.attempt _ client _)
  rcases reject_eq client id error exchange with same | ⟨fault, same⟩
  · rwa [same]
  · rw [same]
    exact sent.log _

/-- A chunk leaves the tasks as they are and calls no hook. -/
theorem dispatchChunk_leads (dispatcher : Dispatcher σ) (allowed : dispatcher.ClosesOnly closes)
    (client : ClientId) (bytes : Bytes) (manager : TaskManager σ) (exchange : Exchange σ) :
    ∃ after, dispatcher.dispatchChunk client bytes manager exchange = (manager, after) ∧
      Leads closes hooks exchange after := by
  unfold dispatchChunk
  split
  · exact ⟨_, rfl, (Leads.refl exchange).log _⟩
  · next consumer found =>
      refine ⟨_, manager.add_chunk ⟨client, bytes, consumer⟩ exchange, ?_⟩
      exact (((Leads.refl exchange).log _).trans
        (ChunkTask.run_leads _ _ (allowed.consumer consumer found client bytes))).pause

/-- What becomes of a frame: its request is enrolled and routed, or it is rejected, or it is a raw
chunk. -/
inductive FrameStep (dispatcher : Dispatcher σ) (raw : RawRequest) (manager : TaskManager σ)
    (exchange : Exchange σ) : TaskManager σ × Exchange σ → Prop where
  | request (request : Request) (accepted : raw.request? = some request) (notice : Log.Notice) :
      FrameStep dispatcher raw manager exchange
        (dispatcher.route exchange.channels.length request manager
          ((exchange.enroll request).2.log notice))
  | reject (refused : raw.request? = none) (id : Rpc.Id) (error : Rpc.Error) :
      FrameStep dispatcher raw manager exchange
        (manager, Dispatcher.reject raw.client id error exchange)
  | chunk (refused : raw.request? = none) (bytes : Bytes) :
      FrameStep dispatcher raw manager exchange
        (dispatcher.dispatchChunk raw.client bytes manager exchange)

/-- Dispatching a frame is one of the steps of a frame. -/
theorem dispatchRequest_step (dispatcher : Dispatcher σ) (raw : RawRequest)
    (manager : TaskManager σ) (exchange : Exchange σ) :
    FrameStep dispatcher raw manager exchange
      (dispatcher.dispatchRequest raw manager exchange) := by
  have envelope (same : raw.request? = RawRequest.request?.parsed raw) :
      FrameStep dispatcher raw manager exchange
        (dispatcher.dispatchEnvelope raw manager exchange) := by
    unfold RawRequest.request?.parsed at same
    unfold dispatchEnvelope
    cases parsed : Rpc.Envelope.parse raw.payload raw.framing with
    | error rejection => exact .reject (by rw [same, parsed]) _ _
    | ok envelope => exact .request _ (by rw [same, parsed]) _
  unfold dispatchRequest
  split
  · next framing => exact envelope (by simp [RawRequest.request?, framing])
  · next framing =>
      split
      · next fault split =>
          exact .reject (by simp [RawRequest.request?, framing, Rpc.split, split]) _ _
      · next parts split =>
          split_ifs with chunk
          · exact .chunk (by simp [RawRequest.request?, framing, Rpc.split, split, chunk]) _
          · exact envelope (by simp [RawRequest.request?, framing, Rpc.split, split, chunk])

/-- An accepted frame opens a channel and is routed; any other frame leaves the tasks as they
are and calls no hook. -/
theorem dispatchRequest_cases (dispatcher : Dispatcher σ) (allowed : dispatcher.ClosesOnly closes)
    (raw : RawRequest) (manager : TaskManager σ) (exchange : Exchange σ) :
    (∃ request notice, raw.request? = some request ∧
      dispatcher.dispatchRequest raw manager exchange =
        dispatcher.route exchange.channels.length request manager
          ((exchange.enroll request).2.log notice)) ∨
      (raw.request? = none ∧ ∃ after,
        dispatcher.dispatchRequest raw manager exchange = (manager, after) ∧
          Leads closes noHook exchange after) := by
  have step := dispatcher.dispatchRequest_step raw manager exchange
  generalize dispatcher.dispatchRequest raw manager exchange = result at step ⊢
  cases step with
  | request request accepted notice => exact .inl ⟨request, notice, accepted, rfl⟩
  | reject refused id error => exact .inr ⟨refused, _, rfl, reject_leads _ _ _ exchange⟩
  | chunk refused bytes =>
      exact .inr ⟨refused, dispatcher.dispatchChunk_leads allowed _ bytes manager exchange⟩

/-! ### Requests to cancel -/

/-- The answer that the outcome of a cancellation is given. -/
def conclude (key : Key) (outcome : Except Rpc.Error Unit) (exchange : Exchange σ) : Exchange σ :=
  match outcome with
  | .ok () => exchange.pause.reply key (.ok .null)
  | .error error => exchange.pause.error key error

/-- The outcome is answered after a turn of the other threads. -/
theorem conclude_answers (key : Key) (outcome : Except Rpc.Error Unit) :
    ∃ act : Act σ, act.Answers key ∧
      ∀ exchange, conclude key outcome exchange = exchange.pause.perform act := by
  cases outcome with
  | ok => exact ⟨.reply key (.ok .null), .inl ⟨_, rfl⟩, fun _ => rfl⟩
  | error error => exact ⟨.error key error, .inr ⟨_, rfl⟩, fun _ => rfl⟩

/-- A request to cancel is answered with the outcome of the manager, if its params can be read. -/
theorem cancel_eq (key : Key) (request : Request) (manager : TaskManager σ)
    (exchange : Exchange σ) :
    cancel key request manager exchange =
      match CancelParams.record.decoder.ofValue request.params with
      | .error shape => (manager, conclude key (.error (.invalidParams shape.message [])) exchange)
      | .ok params =>
        ((manager.cancel request.client params.id exchange).2.1,
          conclude key (manager.cancel request.client params.id exchange).1
            (manager.cancel request.client params.id exchange).2.2) := by
  unfold Dispatcher.cancel Request.paramsAs
  cases CancelParams.record.decoder.ofValue request.params with
  | error shape => rfl
  | ok params =>
      dsimp only
      rcases manager.cancel request.client params.id exchange with ⟨_ | _, _, _⟩ <;> rfl

/-! ### Routing -/

/-- What becomes of a request: it is answered at once, it cancels a task and is answered, or it
becomes a task. -/
inductive RouteStep (dispatcher : Dispatcher σ) (key : Key) (request : Request)
    (manager : TaskManager σ) (exchange : Exchange σ) : TaskManager σ × Exchange σ → Prop where
  | answer (unhandled : dispatcher.handler? request = none) (reported : Exchange σ)
      (same : reported = exchange ∨ ∃ notice, reported = exchange.log notice) (act : Act σ)
      (answers : act.Answers key) :
      RouteStep dispatcher key request manager exchange (manager, reported.pause.perform act)
  | cancel (unhandled : dispatcher.handler? request = none) (id : Rpc.Id) (act : Act σ)
      (answers : act.Answers key) :
      RouteStep dispatcher key request manager exchange
        ((manager.cancel request.client id exchange).2.1,
          (manager.cancel request.client id exchange).2.2.pause.perform act)
  | task (entrypoint : Entrypoint σ) (handled : dispatcher.handler? request = some entrypoint) :
      RouteStep dispatcher key request manager exchange
        (manager.add (.request (.create key request entrypoint)) exchange)

/-- Routing a request is one of the steps of a route. -/
theorem route_step (dispatcher : Dispatcher σ) (key : Key) (request : Request)
    (manager : TaskManager σ) (exchange : Exchange σ) :
    RouteStep dispatcher key request manager exchange
      (dispatcher.route key request manager exchange) := by
  unfold route
  split_ifs with isCancel isRegistry
  · have unhandled : dispatcher.handler? request = none := by
      simp [handler?, isCancel, builtinMethods]
    rw [cancel_eq]
    split
    · next shape _ =>
        obtain ⟨act, answers, same⟩ :=
          @conclude_answers σ key (.error (.invalidParams shape.message []))
        rw [same]
        exact .answer unhandled exchange (.inl rfl) act answers
    · next params _ =>
        obtain ⟨act, answers, same⟩ :=
          @conclude_answers σ key (manager.cancel request.client params.id exchange).1
        rw [same]
        exact .cancel unhandled params.id act answers
  · have unhandled : dispatcher.handler? request = none := by
      simp [handler?, isRegistry, builtinMethods]
    exact .answer unhandled exchange (.inl rfl)
      (.reply key (.ok (.array (dispatcher.methodNames.map Json.Value.string)))) (.inl ⟨_, rfl⟩)
  · have same : dispatcher.handler? request = dispatcher.registry.find? request.method := by
      simp [handler?, isCancel, isRegistry, builtinMethods]
    split
    · next entrypoint found => exact .task entrypoint (same.trans found)
    · next absent =>
        exact .answer (same.trans absent) _ (.inr ⟨_, rfl⟩) (.error key _) (.inr ⟨_, rfl⟩)

/-! ### A whole inbox -/

/-- Routes frames in order. -/
def routeAll (dispatcher : Dispatcher σ) (raws : List RawRequest)
    (state : TaskManager σ × Exchange σ) : TaskManager σ × Exchange σ :=
  raws.foldl (fun (manager, exchange) raw => dispatcher.dispatchRequest raw manager exchange) state

/-- Frames are dispatched one after another. -/
theorem routeAll_append (dispatcher : Dispatcher σ) (first second : List RawRequest)
    (state : TaskManager σ × Exchange σ) :
    dispatcher.routeAll (first ++ second) state =
      dispatcher.routeAll second (dispatcher.routeAll first state) :=
  List.foldl_append

/-- Disconnects the tasks of clients in order. -/
def leaveAll (clients : List ClientId) (state : TaskManager σ × Exchange σ) :
    TaskManager σ × Exchange σ :=
  clients.foldl (fun (manager, exchange) client =>
    manager.disconnect client (exchange.log (.clientDisconnected client))) state

/-- Clients are disconnected one after another. -/
theorem leaveAll_append (first second : List ClientId) (state : TaskManager σ × Exchange σ) :
    leaveAll (first ++ second) state = leaveAll second (leaveAll first state) :=
  List.foldl_append

end Dispatcher

end RpcDispatch
