import RpcDispatch.Proofs.Dispatch.Order
import RpcDispatch.Proofs.Dispatch.Routing
import RpcDispatch.Proofs.Task.Concern

/-
This file shows that everything that the dispatcher handles concerns one client: the one that it
comes from.
-/

namespace RpcDispatch

open Exchange (Still Turn)

variable {σ : Type} {deeds : Entrypoint σ → Request → Deed} {client : ClientId}
  {manager : TaskManager σ} {exchange later : Exchange σ} {key : Key}

/-- The view with more texts. -/
def View.hear (texts : List String) (view : View σ) : View σ :=
  { view with texts := view.texts ++ texts }

@[simp] theorem View.hear_nil (view : View σ) : view.hear [] = view := by
  simp [View.hear]

/-- No held task has the key. -/
def TaskManager.Unheld (manager : TaskManager σ) (key : Key) : Prop :=
  ∀ task, .request task ∈ manager.queue ++ manager.pending → task.key ≠ key

/-! ### Requests without a task -/

/-- What happens to no held task, but sends texts to a client. -/
theorem IsReady.hear (ready : IsReady deeds (manager, exchange)) (quiet : later.OthersQuiet)
    (same : ∀ task, .request task ∈ manager.queue ++ manager.pending →
      later.channel? task.key = exchange.channel? task.key) (texts : List String)
    (heard : ∀ other, later.textsTo other =
      exchange.textsTo other ++ if client = other then texts else []) :
    Concerns deeds client (View.hear texts) (manager, exchange) (manager, later) := by
  obtain ⟨queued, pending, rfl, ready⟩ := ready
  have listed : ∀ task ∈ queued ++ pending,
      later.channel? task.key = exchange.channel? task.key := by
    intro task member
    refine same task ?_
    rw [← List.map_append]
    exact List.mem_map_of_mem member
  have queue (client : ClientId) : tickets client later queued = tickets client exchange queued :=
    tickets_congr fun task member => listed task (List.mem_append_left _ member)
  have kept (client : ClientId) : tickets client later pending = tickets client exchange pending :=
    tickets_congr fun task member => listed task (List.mem_append_right _ member)
  have next : Ready deeds queued pending later :=
    ⟨quiet, ready.isLocal, fun task member =>
      (ready.enrolled task member).of_channel? (listed task member), ready.once,
      fun task member => by
        rw [RequestTask.ticket_of_channel? (listed task (List.mem_append_left _ member))]
        exact ready.fresh task member⟩
  refine ⟨⟨queued, pending, rfl, next⟩, ?_, fun other apart => ?_⟩
  · rw [viewOf_request, viewOf_request]
    simp only [view, View.hear, queue, kept, heard, if_true]
  · rw [viewOf_request, viewOf_request]
    simp only [view, queue, kept, heard, if_neg apart.symm, List.append_nil]

/-- Something for a request that no task is held for. -/
theorem IsReady.turn (ready : IsReady deeds (manager, exchange)) (unheld : manager.Unheld key)
    {channel : Channel} {texts : List String} (turn : Turn key channel texts exchange later)
    (own : channel.request.client = client) :
    Concerns deeds client (View.hear texts) (manager, exchange) (manager, later) :=
  ready.hear (turn.quiet ready.quiet) (fun task held => turn.other (unheld task held)) texts
    (own ▸ turn.texts)

/-- No client can tell that a request was enrolled, and no task is held for it yet. -/
theorem IsReady.enroll (ready : IsReady deeds (manager, exchange)) (request : Request)
    (client : ClientId) :
    Concerns deeds client (View.hear []) (manager, exchange)
        (manager, (exchange.enroll request).2) ∧
      manager.Unheld exchange.channels.length := by
  have below : ∀ task, .request task ∈ manager.queue ++ manager.pending →
      task.key < exchange.channels.length := by
    obtain ⟨queued, pending, rfl, lists⟩ := ready
    intro task held
    rw [← List.map_append] at held
    obtain ⟨_, member, ⟨⟩⟩ := List.mem_map.mp held
    exact (lists.enrolled task member).lt
  have quiet : (exchange.enroll request).2.OthersQuiet := ready.quiet
  refine ⟨ready.hear quiet (fun task held => ?_) [] fun other => by simp [Exchange.textsTo],
    fun task held => Nat.ne_of_lt (below task held)⟩
  rw [Exchange.enroll_channel?, if_neg (Nat.ne_of_lt (below task held))]

theorem attempt_heard (exchange : Exchange σ) (client : ClientId) (text : String)
    (other : ClientId) :
    (exchange.attempt client text).2.textsTo other =
      exchange.textsTo other ++ if client = other then [text] else [] := by
  simp only [Exchange.textsTo, Exchange.attempt_deliveries, List.filter_append, List.map_append]
  split_ifs with own <;> simp [own]

/-- Rejecting a payload sends its error to the client, and that is all. -/
theorem IsReady.reject (ready : IsReady deeds (manager, exchange)) (client : ClientId)
    (id : Rpc.Id) (error : Rpc.Error) :
    Concerns deeds client (View.hear [Rpc.errorText id error]) (manager, exchange)
      (manager, Dispatcher.reject client id error exchange) := by
  have still := ((Still.refl exchange).log (.rejected client id error)).pause ready.quiet
  let sent := ((exchange.log (.rejected client id error)).pause.attempt client
    (Rpc.errorText id error)).2
  -- the text goes out in any case, and a failure is only reported
  have whole (after : Exchange σ) (reported : Still sent after) :
      Concerns deeds client (View.hear [Rpc.errorText id error]) (manager, exchange)
        (manager, after) := by
    have quiet := reported.quiet (still.quiet ready.quiet)
    refine ready.hear quiet (fun task _ => ?_) _ fun other => ?_
    · exact (reported.channel? task.key).trans (still.channel? task.key)
    · rw [reported.textsTo, attempt_heard, still.textsTo]
  unfold Dispatcher.reject
  dsimp only
  split
  · next after result =>
      have same : sent = after := congrArg Prod.snd result
      exact whole _ (same ▸ .refl sent)
  · next fault after result =>
      have same : sent = after := congrArg Prod.snd result
      exact whole _ (same ▸ (Still.refl sent).log _)

/-- A chunk leaves every request alone when the consumer does, and the other threads do. -/
theorem add_chunk_still (manager : TaskManager σ) (task : ChunkTask σ)
    (allowed : (task.consumer task.client task.bytes).IsQuiet) (quiet : exchange.OthersQuiet) :
    Still exchange (manager.add (.chunk task) exchange).2 := by
  rw [TaskManager.add_chunk]
  have reported := (Still.refl exchange).log (.runningPriority task.client "binary")
  generalize exchange.log (.runningPriority task.client "binary") = start at reported ⊢
  have called := (Still.refl start).chunk task.client task.bytes
  have ran := called.trans (Exchange.run_still (task.consumer task.client task.bytes) _
    (called.quiet (reported.quiet quiet)) allowed)
  have whole : Still start (task.run start) := by
    unfold ChunkTask.run
    split
    · next after result =>
        rw [← show _ = after from congrArg Prod.snd result]
        exact ran
    · next error after result =>
        rw [← show _ = after from congrArg Prod.snd result]
        exact ran.log _
  exact (reported.trans whole).pause quiet

/-- A chunk is no client's business when the consumer is quiet. -/
theorem IsReady.chunk (ready : IsReady deeds (manager, exchange)) (client : ClientId)
    (task : ChunkTask σ) (allowed : (task.consumer task.client task.bytes).IsQuiet) :
    Concerns deeds client id (manager, exchange) (manager.add (.chunk task) exchange) := by
  have still := add_chunk_still manager task allowed ready.quiet
  rw [TaskManager.add_chunk] at still ⊢
  exact ready.still still client

/-! ### Requests with a task -/

/-- A new task as its client can tell. -/
def Ticket.create (request : Request) (entrypoint : Entrypoint σ) : Ticket σ :=
  ⟨entrypoint, false, false, false, .open request⟩

/-- The view after a new task was added. -/
def View.add (deeds : Entrypoint σ → Request → Deed) (ticket : Ticket σ) (view : View σ) : View σ :=
  if ticket.entrypoint.hasPriority then view.run deeds ticket
  else { view with queue := view.queue ++ [ticket] }

/-- Ready lists stay ready with a new task in front. -/
theorem Ready.cons {queued pending : List (RequestTask σ)} {request : Request}
    {entrypoint : Entrypoint σ} (ready : Ready deeds queued pending exchange)
    (unheld : ∀ task ∈ queued ++ pending, task.key ≠ key)
    (opened : exchange.channel? key = some (.open request))
    (allowed : entrypoint.IsLocal (deeds entrypoint)) :
    Ready deeds (.create key request entrypoint :: queued) pending exchange ∧
      (RequestTask.create key request entrypoint).ticket exchange = .create request entrypoint := by
  have ticket : (RequestTask.create key request entrypoint).ticket exchange =
      .create request entrypoint := by
    simp [RequestTask.ticket, RequestTask.create, Ticket.create, opened]
  refine ⟨⟨ready.quiet, ?_, ?_, ?_, ?_⟩, ticket⟩
  · intro task member
    rw [List.cons_append, List.mem_cons] at member
    rcases member with rfl | member
    · exact allowed
    · exact ready.isLocal task member
  · intro task member
    rw [List.cons_append, List.mem_cons] at member
    rcases member with rfl | member
    · exact ⟨_, opened, rfl⟩
    · exact ready.enrolled task member
  · rw [List.cons_append, List.map_cons, List.nodup_cons]
    refine ⟨fun member => ?_, ready.once⟩
    obtain ⟨task, held, same⟩ := List.mem_map.mp member
    exact unheld task held same
  · intro task member
    rcases List.mem_cons.mp member with rfl | member
    · rw [ticket]
      exact fun _ => rfl
    · exact ready.fresh task member

/-- Adding a task for a new request concerns its client. -/
theorem IsReady.add (ready : IsReady deeds (manager, exchange)) (request : Request)
    (entrypoint : Entrypoint σ) (unheld : manager.Unheld key)
    (opened : exchange.channel? key = some (.open request))
    (allowed : entrypoint.IsLocal (deeds entrypoint)) :
    Concerns deeds request.client (View.add deeds (.create request entrypoint))
      (manager, exchange) (manager.add (.request (.create key request entrypoint)) exchange) := by
  obtain ⟨queued, pending, rfl, ready⟩ := ready
  have absent : ∀ task ∈ queued ++ pending, task.key ≠ key := by
    intro task member
    refine unheld task ?_
    rw [← List.map_append]
    exact List.mem_map_of_mem member
  let task : RequestTask σ := .create key request entrypoint
  cases priority : entrypoint.hasPriority with
  | true =>
    have still := (Still.refl exchange).log (.runningPriority request.client request.method)
    obtain ⟨next, ticket⟩ :=
      (ready.still still).cons absent ((still.channel? _).trans opened) allowed
    obtain ⟨after, views⟩ := next.run
    have ran : TaskManager.add ⟨queued.map .request, pending.map .request⟩ (.request task)
          exchange =
        (⟨queued.map .request, (retained pending (task.run (exchange.log
          (.runningPriority request.client request.method)))).map .request⟩, _) :=
      TaskManager.add_priority queued pending task exchange priority
    rw [ran]
    refine ⟨⟨_, _, rfl, after⟩, ?_, fun other apart => ?_⟩
    · rw [viewOf_request, viewOf_request]
      refine (views request.client).trans ((if_pos rfl).trans ?_)
      rw [view_still still, ticket]
      simp [View.add, Ticket.create, priority]
    · rw [viewOf_request, viewOf_request]
      refine (views other).trans ((if_neg apart.symm).trans ?_)
      rw [view_still still]
  | false =>
    have still := (Still.refl exchange).log
      (.queued request.client request.method (queued.length + 1))
    obtain ⟨next, ticket⟩ := ready.cons absent opened allowed
    have waits : Ready deeds (queued ++ [task]) pending exchange := by
      refine next.recast (fun held member => ⟨held, ?_, .refl held⟩)
        (fun held member => ⟨held, member, .refl held⟩) ?_
      · simpa [or_comm] using member
      · refine (List.Perm.nodup_iff (List.Perm.map _ ?_)).mp next.once
        simpa using List.perm_middle.symm
    rw [TaskManager.add_waiting queued pending _ exchange priority]
    refine ⟨⟨_, _, rfl, waits.still still⟩, ?_, fun other apart => ?_⟩
    · rw [viewOf_request, viewOf_request]
      refine (view_still still request.client (queued ++ [task]) pending).trans ?_
      have own : tickets request.client exchange [task] = [task.ticket exchange] :=
        tickets_own rfl
      simp only [view, tickets_append, own, View.add, ← ticket, RequestTask.ticket_entrypoint]
      simp [RequestTask.create, priority, task]
    · rw [viewOf_request, viewOf_request]
      refine (view_still still other (queued ++ [task]) pending).trans ?_
      have away : tickets other exchange [task] = [] := tickets_other apart.symm
      simp only [view, tickets_append, away, List.append_nil]

/-! ### Routing -/

/-- Cancelling holds no task with a new key. -/
theorem TaskManager.Unheld.cancel (unheld : manager.Unheld key)
    (ready : IsReady deeds (manager, exchange)) (client : ClientId) (id : Rpc.Id) :
    (manager.cancel client id exchange).2.1.Unheld key := by
  obtain ⟨queued, pending, rfl, _⟩ := ready
  have listed : ∀ task ∈ queued ++ pending, task.key ≠ key := by
    intro task member
    refine unheld task ?_
    rw [← List.map_append]
    exact List.mem_map_of_mem member
  have of_lists {queue run : List (RequestTask σ)}
      (keys : ∀ task ∈ queue ++ run, ∃ old ∈ queued ++ pending, task.key = old.key) :
      TaskManager.Unheld ⟨queue.map .request, run.map .request⟩ key := by
    intro task held
    rw [← List.map_append] at held
    obtain ⟨_, member, ⟨⟩⟩ := List.mem_map.mp held
    obtain ⟨old, present, same⟩ := keys task member
    exact same ▸ listed old present
  obtain ⟨kept, pruned, sublist, _⟩ := TaskManager.keepPending_request pending exchange
  have step := TaskManager.cancel_step queued pending client id exchange
  generalize TaskManager.cancel ⟨queued.map .request, pending.map .request⟩ client id exchange =
    result at step ⊢
  have whole : List.Sublist (queued ++ kept) (queued ++ pending) := sublist.append_left queued
  cases step with
  | refused error => exact unheld
  | absent error =>
      rw [pruned]
      exact of_lists fun task member => ⟨task, whole.subset member, rfl⟩
  | queued outcome cancelled after step =>
      obtain ⟨front, task, rest, rfl, rfl, _, _⟩ := step.split
      rw [pruned]
      refine of_lists fun new member => ?_
      rcases List.mem_append.mp member with first | second
      · obtain ⟨old, present, alike⟩ := mem_replaced (task.cancel_alike _) new first
        exact ⟨old, List.mem_append_left _ present, alike.key⟩
      · exact ⟨new, List.mem_append_right _ (sublist.subset second), rfl⟩
  | pending found outcome cancelled after same part step =>
      obtain ⟨front, task, rest, rfl, rfl, _, _⟩ := step.split
      refine of_lists fun new member => ?_
      rcases List.mem_append.mp member with first | second
      · exact ⟨new, List.mem_append_left _ first, rfl⟩
      · obtain ⟨old, present, alike⟩ := mem_replaced (task.cancel_alike _) new second
        exact ⟨old, List.mem_append_right _ (part.subset present), alike.key⟩

/-- The texts of an answer to a new request. -/
def answerTo (request : Request) (encode : Rpc.Id → String) : List String :=
  ((Channel.open request).answer encode).2

/-- An answer to a new request without a task. -/
theorem IsReady.answer (ready : IsReady deeds (manager, exchange)) (unheld : manager.Unheld key)
    {request : Request} (opened : exchange.channel? key = some (.open request))
    (encode : Rpc.Id → String) :
    Concerns deeds request.client (View.hear (answerTo request encode)) (manager, exchange)
      (manager, exchange.pause.answer key encode) := by
  have still := exchange.pause_still ready.quiet
  refine ready.turn unheld ((exchange.pause.answer_turn encode
    ((still.channel? key).trans opened)).since still) ?_
  rw [Channel.answer_request]
  rfl

/-- What the built-in method does to the view: it cancels and answers. -/
def View.cancelCall (request : Request) (id : Rpc.Id) (view : View σ) : View σ :=
  (view.cancel id).2.hear <|
    match (view.cancel id).1 with
    | .ok _ => answerTo request fun id => Rpc.replyText id .null
    | .error error => answerTo request fun id => Rpc.errorText id error

/-- Routing a new request concerns its client, and changes its view by a step of the given kind that
is known from the request alone. -/
def Dispatcher.Routes (dispatcher : Dispatcher σ) (deeds : Entrypoint σ → Request → Deed)
    (kind : (View σ → View σ) → Prop) (request : Request) : Prop :=
  ∃ step, kind step ∧ ∀ (manager : TaskManager σ) (exchange : Exchange σ) (key : Key),
    IsReady deeds (manager, exchange) → manager.Unheld key →
    exchange.channel? key = some (.open request) →
      Concerns deeds request.client step (manager, exchange)
        (dispatcher.route key request manager exchange)

/-- A step that sends texts, or that adds a new task. -/
def View.IsPlain (deeds : Entrypoint σ → Request → Deed) (step : View σ → View σ) : Prop :=
  (∃ texts, step = View.hear texts) ∨
    ∃ request entrypoint, step = View.add deeds (.create request entrypoint)

/-- A request that cancels nothing is answered or becomes a task. -/
theorem IsReady.routePlain (dispatcher : Dispatcher σ)
    (allowed : ∀ entrypoint ∈ dispatcher.registry.entrypoints,
      entrypoint.IsLocal (deeds entrypoint)) (request : Request)
    (other : request.method ≠ "cancel") :
    dispatcher.Routes deeds (View.IsPlain deeds) request := by
  unfold Dispatcher.Routes Dispatcher.route
  simp only [other, if_false]
  by_cases isRegistry : request.method = "registry"
  · simp only [isRegistry, if_true]
    exact ⟨_, .inl ⟨_, rfl⟩, fun manager exchange key ready unheld opened =>
      ready.answer unheld opened fun id =>
        Rpc.replyText id (.array (dispatcher.methodNames.map Json.Value.string))⟩
  · simp only [isRegistry, if_false]
    cases found : dispatcher.registry.find? request.method with
    | some entrypoint =>
        exact ⟨_, .inr ⟨request, entrypoint, rfl⟩, fun manager exchange key ready unheld opened =>
          ready.add request entrypoint unheld opened
            (allowed entrypoint (List.mem_of_find?_eq_some found))⟩
    | none =>
        refine ⟨_, .inl ⟨answerTo request fun id =>
          Rpc.errorText id (.methodNotFound request.method), rfl⟩,
          fun manager exchange key ready unheld opened => ?_⟩
        have still := (Still.refl exchange).log (.unknownMethod request.client request.method)
        have reported := ready.still still request.client
        exact reported.trans (reported.ready.answer unheld
          ((still.channel? key).trans opened) fun id =>
            Rpc.errorText id (.methodNotFound request.method))

theorem IsReady.route (dispatcher : Dispatcher σ)
    (allowed : ∀ entrypoint ∈ dispatcher.registry.entrypoints,
      entrypoint.IsLocal (deeds entrypoint)) (request : Request) :
    dispatcher.Routes deeds (fun _ => True) request := by
  by_cases isCancel : request.method = "cancel"
  · unfold Dispatcher.Routes Dispatcher.route
    simp only [isCancel, if_true]
    simp only [Dispatcher.cancel_eq]
    cases CancelParams.record.decoder.ofValue request.params with
    | error shape =>
        exact ⟨_, trivial, fun manager exchange key ready unheld opened =>
          ready.answer unheld opened fun id =>
            Rpc.errorText id (.invalidParams shape.message [])⟩
    | ok params =>
        refine ⟨View.cancelCall request params.id, trivial,
          fun manager exchange key ready unheld opened => ?_⟩
        obtain ⟨outcome, cancels, still⟩ := ready.cancel request.client params.id
        have gone := unheld.cancel ready request.client params.id
        dsimp only
        generalize manager.cancel request.client params.id exchange = result at *
        obtain ⟨ended, after, later⟩ := result
        have answered := cancels.ready.answer gone ((still.channel? key).trans opened)
        have known (encode : Rpc.Id → String) (same : View.cancelCall request params.id
            (viewOf request.client (manager, exchange)) =
              ((viewOf request.client (manager, exchange)).cancel params.id).2.hear
                (answerTo request encode)) :
            Concerns deeds request.client (View.cancelCall request params.id) (manager, exchange)
              (after, later.pause.answer key encode) :=
          (cancels.trans (answered encode)).congr same.symm
        cases ended with
        | ok _ =>
            apply known fun id => Rpc.replyText id .null
            rw [View.cancelCall, ← outcome]
        | error error =>
            apply known fun id => Rpc.errorText id error
            rw [View.cancelCall, ← outcome]
  · obtain ⟨step, _, concerns⟩ := IsReady.routePlain dispatcher allowed request isCancel
    exact ⟨step, trivial, concerns⟩

variable {dispatcher : Dispatcher σ} {kind : (View σ → View σ) → Prop}

/-- All scripts of an application are local. -/
structure Dispatcher.IsLocal (dispatcher : Dispatcher σ)
    (deeds : Entrypoint σ → Request → Deed) : Prop where
  entrypoints : ∀ entrypoint ∈ dispatcher.registry.entrypoints,
    entrypoint.IsLocal (deeds entrypoint)
  consumer : ∀ consumer, dispatcher.consumer = some consumer →
    ∀ client bytes, (consumer client bytes).IsQuiet

/-- A payload is rejected, or enrolled as a request and routed. -/
theorem IsReady.dispatchEnvelope (raw : RawRequest) (hears : ∀ texts, kind (View.hear texts))
    (routes : ∀ request, RawRequest.request?.parsed raw = some request →
      dispatcher.Routes deeds kind request) :
    ∃ step, kind step ∧ ∀ (manager : TaskManager σ) (exchange : Exchange σ),
      IsReady deeds (manager, exchange) →
        Concerns deeds raw.client step (manager, exchange)
          (dispatcher.dispatchEnvelope raw manager exchange) := by
  unfold RawRequest.request?.parsed at routes
  unfold Dispatcher.dispatchEnvelope
  cases parsed : Rpc.Envelope.parse raw.payload raw.framing with
  | error rejection =>
      exact ⟨_, hears _, fun manager exchange ready =>
        ready.reject raw.client rejection.id rejection.error⟩
  | ok envelope =>
      rw [parsed] at routes
      let request : Request := ⟨raw.client, envelope.message, envelope.binary⟩
      obtain ⟨step, allowed, concerns⟩ := routes request rfl
      refine ⟨step, allowed, fun manager exchange ready => ?_⟩
      obtain ⟨enrolled, unheld⟩ := ready.enroll request raw.client
      have still := (Still.refl (exchange.enroll request).2).log
        (.dispatching request.client request.id request.method)
      have reported := enrolled.trans (enrolled.ready.still still raw.client)
      have routed := reported.trans (concerns _ _ _ reported.ready unheld (by
        rw [still.channel?, Exchange.enroll_channel?]
        exact if_pos rfl))
      exact routed.congr (congrArg step (View.hear_nil _))

theorem IsReady.dispatchRequest (allowed : dispatcher.IsLocal deeds) (raw : RawRequest)
    (hears : ∀ texts, kind (View.hear texts))
    (routes : ∀ request, raw.request? = some request → dispatcher.Routes deeds kind request) :
    ∃ step, kind step ∧ ∀ (manager : TaskManager σ) (exchange : Exchange σ),
      IsReady deeds (manager, exchange) →
        Concerns deeds raw.client step (manager, exchange)
          (dispatcher.dispatchRequest raw manager exchange) := by
  unfold RawRequest.request? at routes
  unfold Dispatcher.dispatchRequest
  cases framing : raw.framing with
  | text =>
      rw [framing] at routes
      exact IsReady.dispatchEnvelope raw hears routes
  | binary =>
      rw [framing] at routes
      cases split : Rpc.splitBinary raw.payload with
      | error fault =>
          exact ⟨_, hears _, fun manager exchange ready =>
            ready.reject raw.client .absent (.parsing fault.message)⟩
      | ok parts =>
          by_cases chunk : parts.isRawChunk = true
          · have unheard (view : View σ) : id view = view.hear [] := (View.hear_nil view).symm
            simp only [chunk, if_true, Dispatcher.dispatchChunk]
            cases found : dispatcher.consumer with
            | none =>
                exact ⟨_, hears [], fun manager exchange ready =>
                  (ready.still ((Still.refl exchange).log _) raw.client).congr (unheard _)⟩
            | some consumer =>
                exact ⟨_, hears [], fun manager exchange ready => (ready.chunk raw.client
                  ⟨raw.client, parts.tail, consumer⟩
                  (allowed.consumer consumer found _ _)).congr (unheard _)⟩
          · have parsed : Rpc.split raw.payload .binary = .ok parts := split
            rw [parsed] at routes
            simp only [chunk, Bool.false_eq_true, if_false] at routes ⊢
            exact IsReady.dispatchEnvelope raw hears routes

/-- An event is handled for the client that it is about, and what that does to the view of the
client is known from the event and the view. -/
theorem IsReady.handle (allowed : dispatcher.IsLocal deeds) (arrival : Arrival) :
    ∃ step : View σ → View σ, ∀ state : TaskManager σ × Exchange σ, IsReady deeds state →
      Concerns deeds arrival.client step state (dispatcher.handle state arrival) := by
  cases arrival with
  | connection client =>
      exact ⟨_, fun state ready => ready.still ((Still.refl state.2).log _) client⟩
  | disconnection client =>
      refine ⟨fun view => View.disconnect (id view), fun state ready => ?_⟩
      have logged := ready.still ((Still.refl state.2).log (.clientDisconnected client)) client
      exact logged.trans (logged.ready.disconnect client)
  | request raw =>
      obtain ⟨step, _, concerns⟩ := IsReady.dispatchRequest allowed raw (fun _ => trivial)
        fun request _ => IsReady.route dispatcher allowed.entrypoints request
      exact ⟨step, fun state ready => concerns state.1 state.2 ready⟩

end RpcDispatch
