import RpcDispatch.Proofs.Dispatch.Answering
import RpcDispatch.Proofs.Task.Visible

/-
This file says what can be seen of an inbox that is dispatched.  Each frame shows what is done for
it at once, one frame after another, and then the clients that have left show the hooks of their
tasks.
-/

namespace RpcDispatch

open Exchange (Shows Hides)

variable {σ : Type}

/-! ### Frames -/

/-- What a frame is taken for. -/
inductive Intake where
  | rejected (id : Rpc.Id) (error : Rpc.Error)
  | chunk (bytes : Bytes)
  | request (request : Request)

def RawRequest.intake (raw : RawRequest) : Intake :=
  match raw.framing with
  | .text => parsed
  | .binary =>
    match Rpc.splitBinary raw.payload with
    | .error fault => .rejected .absent (.parsing fault.message)
    | .ok parts => if parts.isRawChunk then .chunk parts.tail else parsed
where
  parsed : Intake :=
    match Rpc.Envelope.parse raw.payload raw.framing with
    | .error rejection => .rejected rejection.id rejection.error
    | .ok envelope => .request ⟨raw.client, envelope.message, envelope.binary⟩

def Intake.request? : Intake → Option Request
  | .rejected _ _ => none
  | .chunk _ => none
  | .request accepted => some accepted

/-- The request that a frame is accepted as is the one that it is taken for. -/
theorem RawRequest.intake_request? (raw : RawRequest) : raw.intake.request? = raw.request? := by
  have parsed : (RawRequest.intake.parsed raw).request? = RawRequest.request?.parsed raw := by
    unfold intake.parsed request?.parsed
    cases Rpc.Envelope.parse raw.payload raw.framing <;> rfl
  unfold intake request?
  cases framing : raw.framing with
  | text => exact parsed
  | binary =>
      dsimp only [Rpc.split]
      cases Rpc.splitBinary raw.payload with
      | error fault => rfl
      | ok parts =>
          dsimp only
          split_ifs
          · rfl
          · exact parsed

namespace Dispatcher

/-- A frame is handled as what it is taken for. -/
theorem dispatchRequest_eq (dispatcher : Dispatcher σ) (raw : RawRequest)
    (manager : TaskManager σ) (exchange : Exchange σ) :
    dispatcher.dispatchRequest raw manager exchange =
      match raw.intake with
      | .rejected id error => (manager, reject raw.client id error exchange)
      | .chunk bytes => dispatcher.dispatchChunk raw.client bytes manager exchange
      | .request request =>
        dispatcher.route exchange.channels.length request manager
          ((exchange.enroll request).2.log
            (.dispatching request.client request.id request.method)) := by
  have envelope : dispatcher.dispatchEnvelope raw manager exchange =
      match RawRequest.intake.parsed raw with
      | .rejected id error => (manager, reject raw.client id error exchange)
      | .chunk bytes => dispatcher.dispatchChunk raw.client bytes manager exchange
      | .request request =>
        dispatcher.route exchange.channels.length request manager
          ((exchange.enroll request).2.log
            (.dispatching request.client request.id request.method)) := by
    unfold dispatchEnvelope RawRequest.intake.parsed
    cases Rpc.Envelope.parse raw.payload raw.framing <;> rfl
  unfold dispatchRequest RawRequest.intake
  cases raw.framing with
  | text => exact envelope
  | binary =>
      dsimp only
      cases Rpc.splitBinary raw.payload with
      | error fault => rfl
      | ok parts =>
          dsimp only
          split_ifs
          · rfl
          · exact envelope

/-- The scripts of the application answer a request only from the request hook that is called for
it. -/
structure AnswersOwn (dispatcher : Dispatcher σ) : Prop where
  entrypoints : ∀ entrypoint ∈ dispatcher.registry.entrypoints, entrypoint.AnswersOwn
  consumer : ∀ consumer, dispatcher.consumer = some consumer →
    ∀ client bytes, (consumer client bytes).AnswersOnly noKey

/-- The task that a request becomes if it has to wait for its turn. -/
def waiting? (dispatcher : Dispatcher σ) (key : Key) (request : Request) :
    Option (RequestTask σ) :=
  (dispatcher.task? key request).filter (!·.entrypoint.hasPriority)

/-- What can be seen of a frame when it is dispatched. -/
inductive Handles (dispatcher : Dispatcher σ) (after : Exchange σ) (key : Key)
    (client : ClientId) : Intake → List Visible → Prop where
  | rejected (id : Rpc.Id) (error : Rpc.Error) :
      Handles dispatcher after key client (.rejected id error)
        [.text ⟨.direct, client, Rpc.errorText id error⟩]
  | chunk (bytes : Bytes) (consumed : dispatcher.consumer.isSome = true) :
      Handles dispatcher after key client (.chunk bytes) [.chunk client bytes]
  | dropped (bytes : Bytes) (unconsumed : dispatcher.consumer = none) :
      Handles dispatcher after key client (.chunk bytes) []
  /-- A cancellation that succeeds may call the cancel hook of the task before it is answered. -/
  | cancelled {request : Request} {hook shown : List Visible} (named : request.method = "cancel")
      (once : hook = [] ∨ ∃ method target, hook = [.call method (.cancel target)])
      (told : after.Tells key request (Rpc.replyText · .null) shown) :
      Handles dispatcher after key client (.request request) (hook ++ shown)
  | uncancelled {request : Request} {shown : List Visible} (named : request.method = "cancel")
      (error : Rpc.Error) (told : after.Tells key request (Rpc.errorText · error) shown) :
      Handles dispatcher after key client (.request request) shown
  | registry {request : Request} {shown : List Visible} (named : request.method = "registry")
      (told : after.Tells key request
        (Rpc.replyText · (.array (dispatcher.methodNames.map Json.Value.string))) shown) :
      Handles dispatcher after key client (.request request) shown
  | unknown {request : Request} {shown : List Visible} (custom : request.method ∉ builtinMethods)
      (absent : dispatcher.registry.find? request.method = none)
      (told : after.Tells key request
        (Rpc.errorText · (.methodNotFound request.method)) shown) :
      Handles dispatcher after key client (.request request) shown
  | priority {request : Request} {entrypoint : Entrypoint σ} {shown : List Visible}
      (handled : dispatcher.handler? request = some entrypoint)
      (first : entrypoint.hasPriority = true)
      (responds : entrypoint.Responds key request shown) :
      Handles dispatcher after key client (.request request) shown
  | waiting {request : Request} {entrypoint : Entrypoint σ}
      (handled : dispatcher.handler? request = some entrypoint)
      (waits : entrypoint.hasPriority = false) :
      Handles dispatcher after key client (.request request) []

theorem Handles.mono {dispatcher : Dispatcher σ} {after later : Exchange σ} {key : Key}
    {client : ClientId} {intake : Intake} {shown : List Visible}
    (handles : dispatcher.Handles after key client intake shown)
    (closed : ∀ key, after.isClosed key = true → later.isClosed key = true) :
    dispatcher.Handles later key client intake shown := by
  cases handles with
  | rejected id error => exact .rejected id error
  | chunk bytes consumed => exact .chunk bytes consumed
  | dropped bytes unconsumed => exact .dropped bytes unconsumed
  | cancelled named once told => exact .cancelled named once (told.mono closed)
  | uncancelled named error told => exact .uncancelled named error (told.mono closed)
  | registry named told => exact .registry named (told.mono closed)
  | unknown custom absent told => exact .unknown custom absent (told.mono closed)
  | priority handled first responds => exact .priority handled first responds
  | waiting handled waits => exact .waiting handled waits

end Dispatcher

/-! ### Routing -/

/-- The queued tasks as they were added. -/
def TaskManager.lined (manager : TaskManager σ) : List (RequestTask σ) :=
  manager.queue.filterMap fun task => task.request?.map (·.unmarked)

@[simp] theorem lined_request (queued : List (RequestTask σ)) (pending : List (Task σ)) :
    TaskManager.lined ⟨queued.map .request, pending⟩ = queued.map (·.unmarked) := by
  simp [TaskManager.lined, List.filterMap_map, Task.request?]

/-- A chunk is shown before its consumer runs. -/
theorem ChunkTask.run_shows {exchange : Exchange σ} (task : ChunkTask σ)
    (own : (task.consumer task.client task.bytes).AnswersOnly noKey)
    (silent : exchange.OthersSilent) :
    Shows noKey exchange (task.run exchange) [.chunk task.client task.bytes] := by
  have called : Shows noKey exchange
      (exchange.callConsumer task.consumer task.client task.bytes).2
      [.chunk task.client task.bytes] :=
    (Exchange.shows_chunk exchange _ _).then (Script.run_hides _ _ own silent)
  unfold ChunkTask.run
  split
  · next result => rwa [result] at called
  · next error result =>
      rw [result] at called
      exact called.then ((Hides.refl _).log _)

namespace Dispatcher

variable {dispatcher : Dispatcher σ} {since key : Key} {request : Request} {manager : TaskManager σ}
  {exchange : Exchange σ} {queued pending : List (RequestTask σ)}

theorem waiting?_eq_none (unhandled : dispatcher.handler? request = none) :
    dispatcher.waiting? key request = none := by
  simp [waiting?, task?, unhandled]

/-- A request is routed: what is done for it at once can be seen, and the queue grows by its task if
it has to wait. -/
structure Serves (dispatcher : Dispatcher σ) (key : Key) (client : ClientId) (request : Request)
    (queued : List (RequestTask σ)) (before : Exchange σ) (after : TaskManager σ × Exchange σ)
    (shown : List Visible) : Prop where
  handles : dispatcher.Handles after.2 key client (.request request) shown
  shows : Shows (· = key) before after.2 shown
  lined : after.1.lined =
    queued.map (·.unmarked) ++ (dispatcher.waiting? key request).toList
  waits : ∀ task, .request task ∈ after.1.queue → task.Waits after.2

/-- A request can be routed: nothing has been done for it, no other thread answers, and the held
tasks are for other requests. -/
structure Admits (dispatcher : Dispatcher σ) (key : Key) (request : Request)
    (queued pending : List (RequestTask σ)) (exchange : Exchange σ) : Prop where
  own : dispatcher.AnswersOwn
  tasks : ∀ task ∈ queued ++ pending, task.entrypoint.AnswersOwn
  silent : exchange.OthersSilent
  accurate : exchange.Accurate
  waits : ∀ task ∈ queued, task.Waits exchange
  apart : ∀ task ∈ queued, task.key ≠ key
  enrolled : exchange.requests[key]? = some request
  unanswered : exchange.isAnswered key = false

/-- A request without a task is answered, and leaves the queue as it is up to the mark of a
cancelled task. -/
theorem Admits.answer (admits : dispatcher.Admits key request queued pending exchange)
    {queue : List (RequestTask σ)} {middle : Exchange σ} {shown : List Visible}
    (unhandled : dispatcher.handler? request = none)
    (lined : queue.map (·.unmarked) = queued.map (·.unmarked))
    (waits : ∀ task ∈ queue, task.Waits middle) (first : Shows noKey exchange middle shown)
    (client : ClientId) (rest : List (Task σ)) (encode : Rpc.Id → String)
    (handles : ∀ more after, after.Tells key request encode more →
      dispatcher.Handles after key client (.request request) (shown ++ more)) :
    ∃ more, dispatcher.Serves key client request queued exchange
      (⟨queue.map .request, rest⟩, middle.pause.answer key encode) more := by
  obtain ⟨more, told, second⟩ := Exchange.pause_tells (first.silent admits.silent)
    (first.enrolled admits.enrolled) ((first.answered key id).trans admits.unanswered) encode
  have widened : Shows (· = key) exchange middle shown := first.widen fun _ => False.elim
  refine ⟨shown ++ more, handles more _ told, widened.trans second, ?_, ?_⟩
  · rw [lined_request, waiting?_eq_none unhandled, lined]
    exact (List.append_nil _).symm
  · intro task member
    obtain ⟨held, present, same⟩ := List.mem_map.mp member
    cases same
    refine (waits task present).shows second ?_
    -- a task has the key that it had before it was cancelled
    have marked : task.unmarked ∈ queued.map (·.unmarked) := lined ▸ List.mem_map_of_mem present
    obtain ⟨old, listed, same⟩ := List.mem_map.mp marked
    have keys : old.unmarked.key = task.unmarked.key := congrArg RequestTask.key same
    exact fun here => admits.apart old listed (keys.trans here)

/-- The built-in method cancels a task, or fails. -/
theorem Admits.cancel (admits : dispatcher.Admits key request queued pending exchange)
    (client : ClientId) (named : request.method = "cancel") :
    ∃ shown, dispatcher.Serves key client request queued exchange
      (Dispatcher.cancel key request ⟨queued.map .request, pending.map .request⟩ exchange)
      shown := by
  have unhandled : dispatcher.handler? request = none := by
    simp [handler?, named, builtinMethods]
  rw [cancel_eq]
  split
  · next shape _ =>
      refine admits.answer unhandled rfl admits.waits (Hides.refl exchange) client _
        (fun id => Rpc.errorText id (.invalidParams shape.message [])) ?_
      intro more after told
      exact .uncancelled named _ told
  · next params _ =>
      obtain ⟨shown, queue, rest, cancels, shows, lists, lined, waits⟩ :=
        TaskManager.cancel_shows request.client params.id queued pending admits.tasks admits.silent
          admits.waits
      generalize TaskManager.cancel _ request.client params.id exchange = result at *
      obtain ⟨outcome, manager, middle⟩ := result
      dsimp only at lists shows waits cancels ⊢
      subst lists
      cases outcome with
      | ok =>
          refine admits.answer unhandled lined waits shows client _
            (fun id => Rpc.replyText id .null) ?_
          intro more after told
          refine .cancelled named ?_ told
          rcases cancels with none | ⟨_, method, target, one⟩
          · exact .inl none
          · exact .inr ⟨method, target, one⟩
      | error error =>
          obtain rfl : shown = [] := by
            rcases cancels with none | ⟨never, _⟩
            · exact none
            · cases never
          refine admits.answer unhandled lined waits shows client _
            (fun id => Rpc.errorText id error) ?_
          intro more after told
          exact .uncancelled named error told

/-- A request with an entrypoint becomes a task, which runs now or waits for its turn. -/
theorem Admits.add (admits : dispatcher.Admits key request queued pending exchange)
    (client : ClientId) {entrypoint : Entrypoint σ}
    (handled : dispatcher.handler? request = some entrypoint) :
    ∃ shown, dispatcher.Serves key client request queued exchange
      (TaskManager.add ⟨queued.map .request, pending.map .request⟩
        (.request (.create key request entrypoint)) exchange) shown := by
  have own := admits.own.entrypoints entrypoint (handler?_mem handled)
  cases priority : entrypoint.hasPriority with
  | true =>
      have logged := (Hides.refl exchange).log (.runningPriority request.client request.method)
      have logs : Exchange.Leads anyKey noHook exchange
          (exchange.log (.runningPriority request.client request.method)) :=
        (Exchange.Leads.refl exchange).log _
      have accurate := admits.accurate.grow logs.grows
      obtain ⟨shown, responds, shows⟩ :=
        (RequestTask.create key request entrypoint).run_responds _ own (logged.silent admits.silent)
          accurate (logged.enrolled admits.enrolled) RequestTask.create_fresh
      have ran := shows.since logged
      have whole := ran.then (Exchange.hides_pause (ran.silent admits.silent))
      rw [TaskManager.add_priority queued pending _ _ priority]
      refine ⟨shown, .priority handled priority responds, whole, ?_, ?_⟩
      · have none : dispatcher.waiting? key request = none := by
          simp [waiting?, task?, handled, RequestTask.create, priority]
        rw [lined_request, none]
        exact (List.append_nil _).symm
      · intro task member
        obtain ⟨held, present, same⟩ := List.mem_map.mp member
        cases same
        exact (admits.waits task present).shows whole (admits.apart task present)
  | false =>
      have logged := (Hides.refl exchange).log
        (.queued request.client request.method (queued.length + 1))
      rw [TaskManager.add_waiting queued pending _ _ priority]
      refine ⟨[], .waiting handled priority, logged.widen, ?_, ?_⟩
      · have one : dispatcher.waiting? key request = some (.create key request entrypoint) := by
          simp [waiting?, task?, handled, RequestTask.create, priority]
        rw [lined_request, one, List.map_append]
        rfl
      · intro task member
        obtain ⟨held, present, same⟩ := List.mem_map.mp member
        cases same
        rcases List.mem_append.mp present with old | new
        · exact (admits.waits task old).shows logged not_false
        · rw [List.mem_singleton] at new
          subst new
          exact ⟨own, admits.enrolled, rfl, admits.unanswered, fun marked => by cases marked⟩

/-- Whatever its method, a request is routed. -/
theorem Admits.route (admits : dispatcher.Admits key request queued pending exchange)
    (client : ClientId) :
    ∃ shown, dispatcher.Serves key client request queued exchange
      (dispatcher.route key request ⟨queued.map .request, pending.map .request⟩ exchange)
      shown := by
  unfold Dispatcher.route
  split_ifs with isCancel isRegistry
  · exact admits.cancel client isCancel
  · have unhandled : dispatcher.handler? request = none := by
      simp [handler?, isRegistry, builtinMethods]
    refine admits.answer unhandled rfl admits.waits (Hides.refl exchange) client _
      (fun id => Rpc.replyText id (.array (dispatcher.methodNames.map Json.Value.string))) ?_
    intro more after told
    exact .registry isRegistry told
  · have custom : request.method ∉ builtinMethods := by
      simp [isCancel, isRegistry, builtinMethods]
    have same : dispatcher.handler? request = dispatcher.registry.find? request.method := by
      simp [handler?, custom]
    split
    · next entrypoint found => exact admits.add client (same.trans found)
    · next absent =>
        have logged := (Hides.refl exchange).log
          (.unknownMethod request.client request.method)
        refine admits.answer (same.trans absent) rfl
          (fun task member => (admits.waits task member).shows logged not_false) logged client _
          (fun id => Rpc.errorText id (.methodNotFound request.method)) ?_
        intro more after told
        exact .unknown custom absent told

/-! ### A whole inbox -/

theorem reject_shows (client : ClientId) (id : Rpc.Id) (error : Rpc.Error) (exchange : Exchange σ)
    (silent : exchange.OthersSilent) :
    Shows noKey exchange (reject client id error exchange)
      [.text ⟨.direct, client, Rpc.errorText id error⟩] := by
  have logged := (Hides.refl exchange).log (.rejected client id error)
  have paused := logged.then (Exchange.hides_pause (logged.silent silent))
  have sent : Shows noKey exchange _ _ :=
    (Exchange.shows_attempt _ client (Rpc.errorText id error)).since paused
  rcases reject_eq client id error exchange with same | ⟨fault, same⟩
  · rwa [same]
  · rw [same]
    exact sent.then ((Hides.refl _).log _)

/-- A chunk is shown when a consumer takes it, and leaves the tasks as they are. -/
theorem dispatchChunk_shows (own : dispatcher.AnswersOwn) (silent : exchange.OthersSilent)
    (client : ClientId) (bytes : Bytes) (manager : TaskManager σ) :
    ∃ after shown, dispatcher.dispatchChunk client bytes manager exchange = (manager, after) ∧
      dispatcher.Handles after key client (.chunk bytes) shown ∧
      Shows noKey exchange after shown := by
  unfold dispatchChunk
  split
  · next unconsumed =>
      exact ⟨_, [], rfl, .dropped bytes unconsumed, (Hides.refl exchange).log _⟩
  · next consumer consumed =>
      have logged := (Hides.refl exchange).log (.runningPriority client "binary")
      have ran := (ChunkTask.mk client bytes consumer).run_shows
        (own.consumer consumer consumed client bytes) (logged.silent silent)
      have whole := ran.since logged
      exact ⟨_, [.chunk client bytes], manager.add_chunk ⟨client, bytes, consumer⟩ exchange,
        .chunk bytes (by rw [consumed]; rfl),
        whole.then (Exchange.hides_pause (whole.silent silent))⟩

/-- The texts and the tasks are in order, no other thread answers, and the tasks of the queue wait
for their turn. -/
structure Orderly (dispatcher : Dispatcher σ) (since : Key) (manager : TaskManager σ)
    (exchange : Exchange σ) : Prop where
  keeps : dispatcher.Keeps since manager exchange
  accurate : exchange.Accurate
  silent : exchange.OthersSilent
  waits : ∀ task, .request task ∈ manager.queue → task.Waits exchange

/-- The lists of an orderly manager hold tasks that answer their own requests. -/
theorem Orderly.lists (orderly : dispatcher.Orderly since manager exchange)
    (own : dispatcher.AnswersOwn) :
    ∃ queued pending : List (RequestTask σ),
      manager = ⟨queued.map .request, pending.map .request⟩ ∧
      (∀ task ∈ queued ++ pending, task.entrypoint.AnswersOwn) ∧
      (∀ task ∈ queued, task.Waits exchange) ∧ (queued.map (·.key)).Nodup := by
  obtain ⟨queued, pending, same, ledger, _⟩ := orderly.keeps.accounts
  refine ⟨queued, pending, same, ?_, ?_, ?_⟩
  · intro task held
    obtain ⟨first, member, alike⟩ := ledger.origin task held
    obtain ⟨entrypoint, handled, form⟩ := Option.map_eq_some_iff.mp (mem_enlisted.mp member).2.2
    rw [alike.entrypoint, ← form]
    exact own.entrypoints entrypoint (handler?_mem handled)
  · intro task member
    apply orderly.waits
    rw [same]
    exact List.mem_map_of_mem member
  · have once := ledger.once
    rw [List.map_append] at once
    exact (List.nodup_append.mp once).1

/-- A report changes nothing. -/
theorem Orderly.log (orderly : dispatcher.Orderly since manager exchange) (notice : Log.Notice) :
    dispatcher.Orderly since manager (exchange.log notice) := by
  have logged := (Hides.refl exchange).log notice
  have logs : Exchange.Leads anyKey noHook exchange (exchange.log notice) :=
    (Exchange.Leads.refl exchange).log notice
  exact ⟨orderly.keeps.log notice, orderly.accurate.grow logs.grows, logged.silent orderly.silent,
    fun task member => (orderly.waits task member).shows logged id⟩

/-- A frame has been dispatched: it is handled as what it is taken for, and its task comes last in
the queue if it has to wait. -/
structure Takes (dispatcher : Dispatcher σ) (since : Key) (before : TaskManager σ × Exchange σ)
    (raw : RawRequest) (after : TaskManager σ × Exchange σ) (shown : List Visible) : Prop where
  handles : dispatcher.Handles after.2 before.2.channels.length raw.client raw.intake shown
  shows : Shows anyKey before.2 after.2 shown
  orderly : dispatcher.Orderly since after.1 after.2
  lined : after.1.lined = before.1.lined ++
    (raw.request?.bind (dispatcher.waiting? before.2.channels.length)).toList

/-- A frame that is no request leaves the tasks as they are. -/
theorem Orderly.refused (orderly : dispatcher.Orderly since manager exchange) {raw : RawRequest}
    {after : Exchange σ} {shown : List Visible} (refused : raw.request? = none)
    (keeps : dispatcher.Keeps since manager after) (accurate : after.Accurate)
    (handles : dispatcher.Handles after exchange.channels.length raw.client raw.intake shown)
    (shows : Shows noKey exchange after shown) :
    dispatcher.Takes since (manager, exchange) raw (manager, after) shown where
  handles := handles
  shows := shows.widen fun _ => False.elim
  orderly := ⟨keeps, accurate, shows.silent orderly.silent,
    fun task member => (orderly.waits task member).shows shows id⟩
  lined := by
    rw [refused]
    exact (List.append_nil _).symm

/-- A request that has been enrolled can be routed. -/
theorem Orderly.enroll (orderly : dispatcher.Orderly since manager exchange)
    (own : dispatcher.AnswersOwn) (request : Request) (notice : Log.Notice) :
    ∃ queued pending : List (RequestTask σ),
      manager = ⟨queued.map .request, pending.map .request⟩ ∧
      dispatcher.Admits exchange.channels.length request queued pending
        ((exchange.enroll request).2.log notice) := by
  obtain ⟨queued, pending, lists, tasks, waits, _⟩ := orderly.lists own
  have entered := (Exchange.hides_enroll exchange request).log notice
  have logs : Exchange.Leads anyKey noHook (exchange.enroll request).2 _ :=
    (Exchange.Leads.refl _).log notice
  refine ⟨queued, pending, lists, own, tasks, entered.silent orderly.silent,
    (orderly.accurate.enroll request).grow logs.grows,
    fun task member => (waits task member).shows entered id, ?_, ?_, ?_⟩
  · intro task member here
    have known := (List.getElem?_eq_some_iff.mp (waits task member).enrolled).1
    rw [here, exchange.length_requests] at known
    exact Nat.lt_irrefl _ known
  · have last : ((exchange.enroll request).2.log notice).requests =
        exchange.requests ++ [request] := exchange.enroll_requests request
    rw [last, ← exchange.length_requests]
    simp
  · rw [entered.answered _ id]
    simp [Exchange.isAnswered, Exchange.channel?]

/-- Every frame is handled as what it is taken for. -/
theorem Orderly.dispatchRequest (orderly : dispatcher.Orderly since manager exchange)
    (own : dispatcher.AnswersOwn) (raw : RawRequest) :
    ∃ shown, dispatcher.Takes since (manager, exchange) raw
      (dispatcher.dispatchRequest raw manager exchange) shown := by
  have keeps := orderly.keeps.dispatchRequest raw
  have accurate := orderly.accurate.grow
    (orderly.keeps.dispatchRequest_grows dispatcher.closesOnly_anyKey raw)
  have accepted := raw.intake_request?
  rw [dispatchRequest_eq] at keeps accurate ⊢
  cases intake : raw.intake with
  | rejected id error =>
      rw [intake] at keeps accurate accepted
      exact ⟨_, orderly.refused accepted.symm keeps accurate (intake ▸ .rejected id error)
        (reject_shows raw.client id error exchange orderly.silent)⟩
  | chunk bytes =>
      obtain ⟨after, shown, outcome, handles, shows⟩ :=
        dispatchChunk_shows own orderly.silent raw.client bytes manager
      rw [intake] at keeps accurate accepted
      dsimp only at keeps accurate ⊢
      rw [outcome] at keeps accurate ⊢
      exact ⟨shown, orderly.refused accepted.symm keeps accurate (intake ▸ handles) shows⟩
  | request request =>
      obtain ⟨queued, pending, rfl, admits⟩ := orderly.enroll own request
        (.dispatching request.client request.id request.method)
      have entered := (Exchange.hides_enroll exchange request).log
        (.dispatching request.client request.id request.method)
      obtain ⟨shown, routes⟩ := admits.route raw.client
      have whole := routes.shows.since entered
      rw [intake] at keeps accurate accepted
      refine ⟨shown, ?_, whole.widen fun _ _ => trivial,
        ⟨keeps, accurate, whole.silent orderly.silent, routes.waits⟩, ?_⟩
      · rw [intake]
        exact routes.handles
      · rw [← accepted, lined_request]
        exact routes.lined

end Dispatcher

/-- Frames with the keys that their requests get, if they are accepted. -/
def numbered (next : Key) : List RawRequest → List (Key × RawRequest)
  | [] => []
  | raw :: raws => (next, raw) :: numbered (next + raw.request?.toList.length) raws

namespace Dispatcher

variable {dispatcher : Dispatcher σ} {since : Key} {manager : TaskManager σ} {exchange : Exchange σ}
  {queued pending : List (RequestTask σ)}

/-- The tasks of those frames that have to wait, in the order in which the frames arrived. -/
def lineup (dispatcher : Dispatcher σ) (next : Key) (raws : List RawRequest) :
    List (RequestTask σ) :=
  (numbered next raws).filterMap fun (key, raw) => raw.request?.bind (dispatcher.waiting? key)

/-- Frames are handled one after another, and their tasks line up. -/
theorem Orderly.routeAll (orderly : dispatcher.Orderly since manager exchange)
    (own : dispatcher.AnswersOwn) (raws : List RawRequest) :
    let after := dispatcher.routeAll raws (manager, exchange)
    dispatcher.Orderly since after.1 after.2 ∧
      after.1.lined = manager.lined ++ dispatcher.lineup exchange.channels.length raws ∧
      ∃ blocks, List.Forall₂ (fun frame shown =>
          dispatcher.Handles after.2 frame.1 frame.2.client frame.2.intake shown)
          (numbered exchange.channels.length raws) blocks ∧
        Shows anyKey exchange after.2 blocks.flatten := by
  induction raws generalizing manager exchange with
  | nil =>
      exact ⟨orderly, (List.append_nil _).symm, [], .nil, (Hides.refl exchange).widen⟩
  | cons raw raws ih =>
      obtain ⟨shown, takes⟩ := orderly.dispatchRequest own raw
      obtain ⟨later, lined, blocks, each, shows⟩ := ih takes.orderly
      have next : (dispatcher.dispatchRequest raw manager exchange).2.channels.length =
          exchange.channels.length + raw.request?.toList.length := by
        rw [← Exchange.length_requests, orderly.keeps.dispatchRequest_requests raw,
          List.length_append, exchange.length_requests]
      rw [next] at lined each
      refine ⟨later, ?_, shown :: blocks, .cons (takes.handles.mono shows.closed) each,
        takes.shows.trans shows⟩
      refine lined.trans ?_
      rw [takes.lined, List.append_assoc]
      cases waits : raw.request?.bind (dispatcher.waiting? exchange.channels.length) <;>
        simp [lineup, numbered, waits]

/-! ### Leaving -/

/-- The hooks that are called when clients leave one after another: for each of them those of its
tasks, in the queue and then among the pending tasks.  Between two clients the tasks are forgotten
that are no longer pending. -/
def departures (exchange : Exchange σ) :
    List ClientId → (queued pending : List (RequestTask σ)) → List Visible
  | [], _, _ => []
  | client :: clients, queued, pending =>
    TaskManager.farewells client (queued ++ pending) ++
      departures exchange clients (queued.map (·.leave client))
        ((pending.map (·.leave client)).filter (·.isPending exchange))

end Dispatcher

/-- The form of a task after the given clients have left. -/
def RequestTask.leaveAny (clients : List ClientId) (task : RequestTask σ) : RequestTask σ :=
  if task.request.client ∈ clients then { task with disconnected := true } else task

theorem RequestTask.leaveAny_cons (client : ClientId) (clients : List ClientId)
    (task : RequestTask σ) :
    (task.leave client).leaveAny clients = task.leaveAny (client :: clients) := by
  unfold leaveAny leave
  by_cases own : task.request.client = client <;>
    by_cases left : task.request.client ∈ clients <;> simp [own, left]

namespace Dispatcher

/-- Clients that leave one after another show the hooks of their tasks, and the tasks in the queue
stay there. -/
theorem leaveAll_shows (start : Exchange σ) {exchange : Exchange σ} (clients : List ClientId)
    (queued pending : List (RequestTask σ))
    (tasks : ∀ task ∈ queued ++ pending, task.entrypoint.AnswersOwn)
    (silent : exchange.OthersSilent)
    (same : ∀ key, exchange.isAnswered key = start.isAnswered key) :
    let after := leaveAll clients (⟨queued.map .request, pending.map .request⟩, exchange)
    Shows noKey exchange after.2 (departures start clients queued pending) ∧
      ∃ rest : List (RequestTask σ),
        after.1 = ⟨(queued.map (·.leaveAny clients)).map .request, rest.map .request⟩ := by
  induction clients generalizing queued pending exchange with
  | nil =>
      refine ⟨Hides.refl exchange, pending, ?_⟩
      have stays : queued.map (·.leaveAny []) = queued := by simp [RequestTask.leaveAny]
      rw [stays]
      rfl
  | cons client clients ih =>
      have logged := (Hides.refl exchange).log (.clientDisconnected client)
      obtain ⟨lists, left⟩ :=
        TaskManager.disconnect_shows client queued pending tasks (logged.silent silent)
      have whole := left.since logged
      have asked : (fun task : RequestTask σ =>
          task.isPending (exchange.log (.clientDisconnected client))) =
            fun task => task.isPending start := by
        funext task
        exact task.isPending_congr (same task.key)
      rw [asked] at lists
      have others : ∀ task ∈ queued.map (·.leave client) ++
          (pending.map (·.leave client)).filter (·.isPending start),
          task.entrypoint.AnswersOwn := by
        intro task member
        have known : task ∈ (queued ++ pending).map (·.leave client) := by
          rw [List.map_append]
          exact (List.Sublist.append_left List.filter_sublist _).subset member
        obtain ⟨old, listed, form⟩ := List.mem_map.mp known
        rw [← form, (old.leave_same client).entrypoint]
        exact tasks old listed
      obtain ⟨shows, rest, later⟩ := ih _ _ others (whole.silent silent)
        fun key => (whole.answered key id).trans (same key)
      have marked : (queued.map (·.leave client)).map (·.leaveAny clients) =
          queued.map (·.leaveAny (client :: clients)) := by
        rw [List.map_map]
        exact List.map_congr_left fun task _ => task.leaveAny_cons client clients
      rw [marked, ← lists] at later
      rw [← lists] at shows
      exact ⟨whole.trans shows, rest, later⟩

end Dispatcher

end RpcDispatch
