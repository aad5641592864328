import RpcDispatch.Proofs.Service.Separation
import RpcDispatch.Proofs.Service.Tracking

/-
This file shows that batching changes no answers: where the scripts of the application are local, a
client cannot tell where a sequence of frames was cut, apart from the order of its texts.  A task
that waits in the queue brings the same texts when it is run as it would have brought at once.
-/

namespace RpcDispatch

open Exchange (Still)

variable {σ : Type} {deeds : Entrypoint σ → Request → Deed} {dispatcher : Dispatcher σ}

/-! ### What the queue brings -/

namespace Ticket

/-- The texts that a ticket brings when it is run. -/
def said (deeds : Entrypoint σ → Request → Deed) (ticket : Ticket σ) : List String :=
  (ticket.run deeds).2

/-- What is left pending of a ticket that has been run. -/
def left (deeds : Entrypoint σ → Request → Deed) (ticket : Ticket σ) : List (Ticket σ) :=
  if (ticket.run deeds).1.isPending then [(ticket.run deeds).1] else []

end Ticket

namespace View

/-- A ticket that is run leaves what it leaves and says what it says. -/
theorem run_eq (view : View σ) (ticket : Ticket σ) :
    view.run deeds ticket =
      { view with
        pending := view.pending ++ ticket.left deeds
        texts := view.texts ++ ticket.said deeds } := by
  unfold View.run Ticket.left
  dsimp only
  split_ifs
  · rfl
  · rw [List.append_nil]
    rfl

/-- A queue of tickets leaves what each of them leaves, in order. -/
theorem foldl_run (queue : List (Ticket σ)) (view : View σ) :
    queue.foldl (run deeds) view =
      { view with
        pending := view.pending ++ queue.flatMap (Ticket.left deeds)
        texts := view.texts ++ queue.flatMap (Ticket.said deeds) } := by
  induction queue generalizing view with
  | nil => simp
  | cons ticket queue ih =>
      rw [List.foldl_cons, ih, run_eq]
      simp

/-- Running the queue brings what its tickets bring, in order. -/
theorem runAll_eq (view : View σ) :
    view.runAll deeds =
      ⟨[], view.pending ++ view.queue.flatMap (Ticket.left deeds),
        view.texts ++ view.queue.flatMap (Ticket.said deeds)⟩ := by
  unfold runAll
  rw [foldl_run]

/-- An empty queue brings nothing. -/
theorem runAll_idle {view : View σ} (idle : view.queue = []) : view.runAll deeds = view := by
  obtain ⟨queue, pending, texts⟩ := view
  obtain rfl : queue = [] := idle
  simp [runAll_eq]

/-- The queue is empty when it has been run. -/
theorem runAll_queue (view : View σ) : (view.runAll deeds).queue = [] := by
  rw [runAll_eq]

/-! ### What a step brings -/

/-- A step brings the same texts and pending tickets to every view, counted when the queue has been
run. -/
structure Brings (deeds : Entrypoint σ → Request → Deed) (step : View σ → View σ)
    (left : List (Ticket σ)) (said : List String) : Prop where
  pending : ∀ view, ((step view).runAll deeds).pending.Perm ((view.runAll deeds).pending ++ left)
  texts : ∀ view, ((step view).runAll deeds).texts.Perm ((view.runAll deeds).texts ++ said)

theorem brings_id : Brings deeds id [] [] := by
  constructor
  · intro view
    simp
  · intro view
    simp

/-- Two steps bring what each of them brings. -/
theorem Brings.trans {first second : View σ → View σ} {early late : List (Ticket σ)}
    {before after : List String} (one : Brings deeds first early before)
    (other : Brings deeds second late after) :
    Brings deeds (fun view => second (first view)) (early ++ late) (before ++ after) := by
  constructor
  · intro view
    rw [← List.append_assoc]
    exact (other.pending (first view)).trans ((one.pending view).append_right late)
  · intro view
    rw [← List.append_assoc]
    exact (other.texts (first view)).trans ((one.texts view).append_right after)

/-- It does not matter whether the queue is run in between. -/
theorem Brings.run {step : View σ → View σ} {left : List (Ticket σ)} {said : List String}
    (brings : Brings deeds step left said) :
    Brings deeds (fun view => (step view).runAll deeds) left said := by
  constructor
  · intro view
    rw [runAll_idle (step view).runAll_queue]
    exact brings.pending view
  · intro view
    rw [runAll_idle (step view).runAll_queue]
    exact brings.texts view

/-- What comes before the queue is run may as well come after. -/
theorem perm_append_swap {α : Type} (first second third : List α) :
    (first ++ second ++ third).Perm (first ++ third ++ second) := by
  rw [List.append_assoc, List.append_assoc]
  exact List.perm_append_comm.append_left first

theorem brings_hear (texts : List String) : Brings deeds (hear texts) [] texts := by
  constructor
  · intro view
    rw [runAll_eq, runAll_eq, List.append_nil]
    exact .refl _
  · intro view
    rw [runAll_eq, runAll_eq]
    exact perm_append_swap _ _ _

/-- A task that runs at once brings the same as one that waits. -/
theorem brings_add (ticket : Ticket σ) :
    Brings deeds (add deeds ticket) (ticket.left deeds) (ticket.said deeds) := by
  constructor
  · intro view
    unfold add
    split_ifs
    · rw [run_eq, runAll_eq, runAll_eq]
      exact perm_append_swap _ _ _
    · rw [runAll_eq, runAll_eq]
      simp
  · intro view
    unfold add
    split_ifs
    · rw [run_eq, runAll_eq, runAll_eq]
      exact perm_append_swap _ _ _
    · rw [runAll_eq, runAll_eq]
      simp

/-- Every plain step brings something that does not depend on the view. -/
theorem IsPlain.brings {step : View σ → View σ} (plain : IsPlain deeds step) :
    ∃ left said, Brings deeds step left said := by
  rcases plain with ⟨texts, rfl⟩ | ⟨request, entrypoint, rfl⟩
  · exact ⟨_, _, brings_hear texts⟩
  · exact ⟨_, _, brings_add _⟩

/-! ### What batches bring -/

variable {steps : Arrival → View σ → View σ} {left : Arrival → List (Ticket σ)}
  {said : Arrival → List String}

/-- A batch brings what its events bring. -/
theorem takeAll_brings {arrivals : List Arrival}
    (bring : ∀ arrival ∈ arrivals, Brings deeds (steps arrival) (left arrival) (said arrival)) :
    Brings deeds (fun view => view.takeAll steps arrivals) (arrivals.flatMap left)
      (arrivals.flatMap said) := by
  induction arrivals with
  | nil => exact brings_id
  | cons arrival arrivals ih =>
      exact (bring arrival List.mem_cons_self).trans
        (ih fun later member => bring later (List.mem_cons_of_mem arrival member))

/-- The view after several batches, with the queue run after each. -/
def takeBatches (deeds : Entrypoint σ → Request → Deed) (steps : Arrival → View σ → View σ)
    (batches : List (List Arrival)) (view : View σ) : View σ :=
  batches.foldl (fun view arrivals => (view.takeAll steps arrivals).runAll deeds) view

/-- Batches bring what all their events bring, wherever they are cut. -/
theorem takeBatches_brings {batches : List (List Arrival)}
    (bring : ∀ arrival ∈ batches.flatten,
      Brings deeds (steps arrival) (left arrival) (said arrival)) :
    Brings deeds (takeBatches deeds steps batches) (batches.flatten.flatMap left)
      (batches.flatten.flatMap said) := by
  induction batches with
  | nil => exact brings_id
  | cons arrivals batches ih =>
      have first := (takeAll_brings fun arrival member =>
        bring arrival (List.mem_append_left _ member)).run
      have rest := ih fun arrival member => bring arrival (List.mem_append_right _ member)
      rw [List.flatten_cons, List.flatMap_append, List.flatMap_append]
      exact first.trans rest

/-- After some batches the queue is empty, if it was so before. -/
theorem takeBatches_queue (batches : List (List Arrival)) {view : View σ}
    (idle : view.queue = []) : (view.takeBatches deeds steps batches).queue = [] := by
  induction batches generalizing view with
  | nil => exact idle
  | cons arrivals batches ih => exact ih (runAll_queue _)

end View

/-! ### What events bring -/

/-- An event that disconnects nobody and is no call of the method that cancels. -/
def Arrival.IsPlain : Arrival → Prop
  | .connection _ => True
  | .request raw => ∀ request, raw.request? = some request → request.method ≠ "cancel"
  | .disconnection _ => False

/-- Only frames bring something. -/
def Arrival.IsFrame : Arrival → Prop
  | .request _ => True
  | _ => False

/-- A plain event is handled by a step that brings the same to every view. -/
theorem IsReady.handlePlain (allowed : dispatcher.IsLocal deeds) (arrival : Arrival) :
    ∃ step left said, (∀ state : TaskManager σ × Exchange σ, IsReady deeds state →
        Concerns deeds arrival.client step state (dispatcher.handle state arrival)) ∧
      (arrival.IsPlain → View.Brings deeds step left said) ∧
      (¬ arrival.IsFrame → left = [] ∧ said = []) := by
  cases arrival with
  | connection client =>
      exact ⟨id, [], [], fun state ready => ready.still ((Still.refl state.2).log _) client,
        fun _ => View.brings_id, fun _ => ⟨rfl, rfl⟩⟩
  | disconnection client =>
      obtain ⟨step, concerns⟩ := IsReady.handle allowed (.disconnection client)
      exact ⟨step, [], [], concerns, False.elim, fun _ => ⟨rfl, rfl⟩⟩
  | request raw =>
      by_cases plain : Arrival.IsPlain (.request raw)
      · obtain ⟨step, simple, concerns⟩ := IsReady.dispatchRequest allowed raw
          (fun texts => .inl ⟨texts, rfl⟩) fun request accepted =>
            IsReady.routePlain dispatcher allowed.entrypoints request (plain request accepted)
        obtain ⟨left, said, brings⟩ := simple.brings
        exact ⟨step, left, said, fun state ready => concerns state.1 state.2 ready,
          fun _ => brings, fun none => absurd trivial none⟩
      · obtain ⟨step, concerns⟩ := IsReady.handle allowed (.request raw)
        exact ⟨step, [], [], concerns, fun simple => absurd simple plain, fun _ => ⟨rfl, rfl⟩⟩

/-- The events of an inbox bring what its frames bring. -/
theorem Inbox.flatMap_order {α : Type} {brought : Arrival → List α}
    (silent : ∀ arrival : Arrival, ¬ arrival.IsFrame → brought arrival = []) (client : ClientId)
    (inbox : Inbox) :
    (arrivalsOf client inbox.order).flatMap brought =
      (arrivalsOf client (inbox.requests.map .request)).flatMap brought := by
  have connected : (arrivalsOf client (inbox.connected.map .connection)).flatMap brought = [] := by
    apply List.flatMap_eq_nil_iff.mpr
    intro arrival member
    obtain ⟨owner, _, rfl⟩ := List.mem_map.mp (mem_arrivalsOf.mp member).1
    exact silent _ id
  have disconnected :
      (arrivalsOf client (inbox.disconnected.map .disconnection)).flatMap brought = [] := by
    apply List.flatMap_eq_nil_iff.mpr
    intro arrival member
    obtain ⟨owner, _, rfl⟩ := List.mem_map.mp (mem_arrivalsOf.mp member).1
    exact silent _ id
  rw [Inbox.order, arrivalsOf_append, arrivalsOf_append, List.flatMap_append,
    List.flatMap_append, connected, disconnected, List.nil_append, List.append_nil]

/-- What inboxes bring depends on their frames alone, and not on where they are cut. -/
theorem flatMap_batches {α : Type} {brought : Arrival → List α}
    (silent : ∀ arrival : Arrival, ¬ arrival.IsFrame → brought arrival = []) (client : ClientId)
    (inboxes : List Inbox) :
    (inboxes.map fun inbox => arrivalsOf client inbox.order).flatten.flatMap brought =
      (arrivalsOf client ((inboxes.flatMap (·.requests)).map .request)).flatMap brought := by
  induction inboxes with
  | nil => rfl
  | cons inbox inboxes ih =>
      rw [List.map_cons, List.flatten_cons, List.flatMap_append, ih, List.flatMap_cons,
        List.map_append, arrivalsOf_append, List.flatMap_append,
        Inbox.flatMap_order silent client inbox]

/-! ### Pending tasks -/

/-- When the queue has been run, every task that is held is pending. -/
def IsSettled (state : TaskManager σ × Exchange σ) : Prop :=
  ∀ task, .request task ∈ state.1.pending → task.isPending state.2 = true

/-- What is held when the queue has been run is pending. -/
theorem IsReady.runAll_settled {state : TaskManager σ × Exchange σ} (ready : IsReady deeds state) :
    IsSettled (state.1.runAll state.2) := by
  obtain ⟨manager, exchange⟩ := state
  obtain ⟨queued, pending, rfl, ready⟩ := ready
  obtain ⟨held, same, later, _⟩ := drain_view ready
  obtain ⟨kept, pruned, _, last, pends, _⟩ := later.prune
  have lists : (TaskManager.runAll ⟨queued.map .request, pending.map .request⟩ exchange) =
      (⟨[], kept.map .request⟩, (TaskManager.keepPending (held.map .request)
        (TaskManager.drain (queued.map .request) (pending.map .request) exchange).2).2) := by
    simp only [TaskManager.runAll, TaskManager.prune, same, pruned]
  show IsSettled (TaskManager.runAll ⟨queued.map .request, pending.map .request⟩ exchange)
  rw [lists]
  intro task member
  obtain ⟨_, found, ⟨⟩⟩ := List.mem_map.mp member
  rw [RequestTask.isPending_ticket (last.enrolled task (List.mem_append_right _ found))]
  exact pends task found

/-- What concerns no request leaves them pending. -/
theorem IsSettled.still {manager : TaskManager σ} {before after : Exchange σ}
    (settled : IsSettled (manager, before)) (still : Still before after) :
    IsSettled (manager, after) := by
  intro task member
  have pends := settled task member
  rw [RequestTask.isPending_iff, Exchange.isAnswered] at pends ⊢
  rw [still.channel?]
  exact pends

/-- A list of requests is known from those of each client. -/
theorem perm_of_clients {left right : List Request}
    (same : ∀ client : ClientId,
      (left.filter (·.client = client)).Perm (right.filter (·.client = client))) :
    left.Perm right := by
  classical
  apply List.perm_iff_count.mpr
  intro request
  have counted (requests : List Request) :
      (requests.filter (·.client = request.client)).count request = requests.count request :=
    List.count_filter (by simp)
  rw [← counted left, ← counted right]
  exact (same request.client).count_eq request

/-! ### Iterations -/

namespace Service

/-- The requests of the pending tasks. -/
def pendingRequests (service : Service σ) : List Request :=
  (service.manager.pending.filterMap Task.request?).map (·.request)

variable {steps : Arrival → View σ → View σ}

/-- After some iterations every client has taken its batches. -/
theorem foldl_process_batches (allowed : dispatcher.IsLocal deeds)
    (known : dispatcher.Steps deeds steps) (inboxes : List Inbox) (service : Service σ)
    (same : service.dispatcher = dispatcher) (ready : IsReady deeds service.state) :
    IsReady deeds (inboxes.foldl process service).state ∧
      ∀ client, viewOf client (inboxes.foldl process service).state =
        (viewOf client service.state).takeBatches deeds steps
          (inboxes.map fun inbox => arrivalsOf client inbox.order) := by
  induction inboxes generalizing service with
  | nil => exact ⟨ready, fun client => rfl⟩
  | cons inbox inboxes ih =>
      obtain ⟨next, views⟩ := process_views allowed known same ready inbox
      obtain ⟨later, batches⟩ := ih (service.process inbox) same next
      refine ⟨later, fun client => ?_⟩
      rw [List.foldl_cons, batches, views]
      rfl

/-- After an iteration, every task that is held is pending. -/
theorem process_settled (allowed : dispatcher.IsLocal deeds)
    (known : dispatcher.Steps deeds steps) {service : Service σ}
    (same : service.dispatcher = dispatcher) (ready : IsReady deeds service.state)
    (inbox : Inbox) : IsSettled (service.process inbox).state := by
  have handled := (handled_views known same ready inbox).1
  have updated := service.dispatcher.registry.update_still _ handled.runAll.1.quiet
    fun entrypoint member => (allowed.entrypoints entrypoint (same ▸ member)).onUpdate
  rw [process_eq_handled]
  exact handled.runAll_settled.still updated

/-- What is held after any iterations is pending, if it was before. -/
theorem foldl_process_settled (allowed : dispatcher.IsLocal deeds)
    (known : dispatcher.Steps deeds steps) (inboxes : List Inbox) (service : Service σ)
    (same : service.dispatcher = dispatcher) (ready : IsReady deeds service.state)
    (settled : IsSettled service.state) : IsSettled (inboxes.foldl process service).state := by
  induction inboxes generalizing service with
  | nil => exact settled
  | cons inbox inboxes ih =>
      have next := process_views allowed known same ready inbox
      exact ih (service.process inbox) same next.1
        (process_settled allowed known same ready inbox)

/-- The queue is empty after any iterations, if it was before. -/
theorem foldl_process_queue (inboxes : List Inbox) {service : Service σ}
    (idle : service.manager.queue = []) : (inboxes.foldl process service).manager.queue = [] := by
  induction inboxes generalizing service with
  | nil => exact idle
  | cons inbox inboxes ih => exact ih (process_queue service inbox)

/-- The pending requests of a client are those in its view. -/
theorem pendingRequests_filter {service : Service σ} (ready : IsReady deeds service.state)
    (settled : IsSettled service.state) (client : ClientId) :
    service.pendingRequests.filter (·.client = client) =
      (viewOf client service.state).pending.map (·.channel.request) := by
  obtain ⟨inbox, dispatcher, manager, exchange⟩ := service
  obtain ⟨queued, pending, rfl, ready⟩ := ready
  have ready : Ready deeds queued pending exchange := ready
  have pends : ∀ ticket ∈ tickets client exchange pending, ticket.isPending = true := by
    intro ticket member
    obtain ⟨task, listed, rfl⟩ := List.mem_map.mp member
    have held := List.mem_of_mem_filter listed
    rw [← RequestTask.isPending_ticket (ready.enrolled task (List.mem_append_right _ held))]
    exact settled task (List.mem_map_of_mem held)
  show ((((pending.map Task.request).filterMap Task.request?).map (·.request)).filter _) =
    (viewOf client (⟨queued.map .request, pending.map .request⟩, exchange)).pending.map _
  rw [viewOf_request, filterMap_request]
  unfold view
  dsimp only
  rw [List.filter_eq_self.mpr pends, tickets, List.map_map, List.filter_map]
  apply List.map_congr_left
  intro task member
  have held := List.mem_of_mem_filter member
  exact (ready.enrolled task (List.mem_append_right _ held)).request.symm

/-- From an idle view on, some iterations bring what their frames bring. -/
theorem foldl_process_brings {left : Arrival → List (Ticket σ)} {said : Arrival → List String}
    (allowed : dispatcher.IsLocal deeds) (known : dispatcher.Steps deeds steps)
    (brings : ∀ arrival : Arrival, arrival.IsPlain →
      View.Brings deeds (steps arrival) (left arrival) (said arrival))
    (silent : ∀ arrival : Arrival, ¬ arrival.IsFrame → left arrival = [] ∧ said arrival = [])
    {inboxes : List Inbox} (stays : ∀ inbox ∈ inboxes, inbox.disconnected = [])
    (plain : ∀ raw ∈ inboxes.flatMap (·.requests), Arrival.IsPlain (.request raw))
    (service : Service σ) (same : service.dispatcher = dispatcher)
    (ready : IsReady deeds service.state) (client : ClientId)
    (idle : viewOf client service.state = ⟨[], [], []⟩) :
    let arrivals := arrivalsOf client ((inboxes.flatMap (·.requests)).map .request)
    let view := viewOf client (inboxes.foldl process service).state
    view.pending.Perm (arrivals.flatMap left) ∧ view.texts.Perm (arrivals.flatMap said) := by
  intro arrivals view
  have listed : ∀ arrival ∈ (inboxes.map fun inbox => arrivalsOf client inbox.order).flatten,
      arrival.IsPlain := by
    intro arrival member
    obtain ⟨_, batch, inside⟩ := List.mem_flatten.mp member
    obtain ⟨inbox, present, rfl⟩ := List.mem_map.mp batch
    have ordered := (mem_arrivalsOf.mp inside).1
    rw [Inbox.order, stays inbox present, List.map_nil, List.append_nil] at ordered
    rcases List.mem_append.mp ordered with connection | frame
    · obtain ⟨_, _, rfl⟩ := List.mem_map.mp connection
      trivial
    · obtain ⟨raw, sent, rfl⟩ := List.mem_map.mp frame
      exact plain raw (List.mem_flatMap.mpr ⟨inbox, present, sent⟩)
  have total := View.takeBatches_brings fun arrival member => brings arrival (listed arrival member)
  have reached := (foldl_process_batches allowed known inboxes service same ready).2 client
  rw [idle] at reached
  have settled : view.runAll deeds = view := by
    apply View.runAll_idle
    show (viewOf client (inboxes.foldl process service).state).queue = []
    rw [reached]
    exact View.takeBatches_queue _ rfl
  have pending := total.pending ⟨[], [], []⟩
  have texts := total.texts ⟨[], [], []⟩
  rw [← reached, flatMap_batches (fun arrival none => (silent arrival none).1)] at pending
  rw [← reached, flatMap_batches (fun arrival none => (silent arrival none).2)] at texts
  rw [← settled]
  exact ⟨pending, texts⟩

/-- Batching changes no answers.  Where what a request hook does depends on its request alone, and
all other code of the application touches no request, every client is handed the same texts, and the
same requests are left pending, wherever a sequence of frames is cut into buffers. -/
theorem batching_changes_no_answers (allowed : dispatcher.IsLocal deeds) (state : σ)
    (senders : ClientId → Nat → Option SendFault) (others : List (List (Act σ)))
    (quiet : ∀ acts ∈ others, ∀ act ∈ acts, act.IsQuiet) (first second : List Inbox)
    (stays : ∀ inbox ∈ first ++ second, inbox.disconnected = [])
    (same : first.flatMap (·.requests) = second.flatMap (·.requests))
    (uncancelled : ∀ raw ∈ first.flatMap (·.requests), ∀ request,
      raw.request? = some request → request.method ≠ "cancel") :
    let start : Service σ := .create dispatcher { Exchange.start state senders with others }
    let left := first.foldl process start
    let right := second.foldl process start
    (∀ client, (left.exchange.textsTo client).Perm (right.exchange.textsTo client)) ∧
      left.pendingRequests.Perm right.pendingRequests ∧
      left.manager.queue = [] ∧ right.manager.queue = [] := by
  intro start left right
  have ready : IsReady deeds start.state :=
    ⟨[], [], rfl, quiet, by simp, by simp, by simp, by simp⟩
  have settled : IsSettled start.state := nofun
  choose steps held said known brings silent using IsReady.handlePlain allowed
  have summary (inboxes : List Inbox) (member : ∀ inbox ∈ inboxes, inbox ∈ first ++ second)
      (cut : inboxes.flatMap (·.requests) = first.flatMap (·.requests)) (client : ClientId) :=
    foldl_process_brings allowed known brings silent
      (fun inbox present => stays inbox (member inbox present))
      (fun raw sent => uncancelled raw (cut ▸ sent)) start rfl ready client rfl
  have one := summary first (fun inbox => List.mem_append_left second) rfl
  have other := summary second (fun inbox => List.mem_append_right first) same.symm
  dsimp only at one other
  rw [same] at one
  have pending (inboxes : List Inbox) (client : ClientId) :
      (inboxes.foldl process start).pendingRequests.filter (·.client = client) =
        (viewOf client (inboxes.foldl process start).state).pending.map (·.channel.request) :=
    pendingRequests_filter (foldl_process_batches allowed known inboxes start rfl ready).1
      (foldl_process_settled allowed known inboxes start rfl ready settled) client
  refine ⟨fun client => ?_, ?_, foldl_process_queue first rfl, foldl_process_queue second rfl⟩
  · exact (one client).2.trans (other client).2.symm
  · apply perm_of_clients
    intro client
    rw [pending first, pending second]
    exact ((one client).1.trans (other client).1.symm).map _

/-- What a method does that leaves its answer for later. -/
def holdDeed : Deed :=
  ⟨[], false, false, .success⟩

theorem holdEntrypoint_isLocal : holdEntrypoint.IsLocal fun _ => holdDeed := by
  refine ⟨fun key request exchange quiet opened => ?_, trivial, trivial, trivial⟩
  have turn := (Still.refl exchange).turn opened
  exact ⟨rfl, turn.channels, turn.texts⟩

/-- A method that answers at once. -/
def promptEntrypoint : Entrypoint Unit :=
  { echoEntrypoint with method := "prompt", hasPriority := true }

/-- A call that waits, one with priority, one that is answered later and a frame that is no
request. -/
def mixedFrames : List RawRequest :=
  let frame (client : Nat) (text : String) : RawRequest := ⟨⟨client⟩, text.toUTF8.toList, .text⟩
  let call (client : Nat) (method : String) (id : Nat) : RawRequest :=
    frame client (Rpc.Message.request method (.string "hello") (.integer id)).text
  [call 1 "echo" 1, call 1 "prompt" 2, call 2 "hold" 3, frame 1 "hello"]

def mixedService : Service Unit :=
  .create ⟨⟨builtinMethods, [echoEntrypoint, holdEntrypoint, promptEntrypoint]⟩, none⟩
    (.start () fun _ _ => none)

/-- With a cut after the first call its answer comes first, and otherwise last. -/
theorem batching_changes_no_answers_mixed :
    let left := [⟨[], [], mixedFrames⟩].foldl process mixedService
    let right := [⟨[], [], mixedFrames.take 1⟩, .empty, ⟨[], [], mixedFrames.drop 1⟩].foldl process
      mixedService
    (∀ client, (left.exchange.textsTo client).Perm (right.exchange.textsTo client)) ∧
      left.pendingRequests.Perm right.pendingRequests ∧
      left.exchange.textsTo ⟨1⟩ = (right.exchange.textsTo ⟨1⟩).rotate 1 ∧
      (left.exchange.textsTo ⟨1⟩).length = 3 ∧ left.pendingRequests.length = 1 := by
  intro left right
  let deeds (entrypoint : Entrypoint Unit) : Request → Deed :=
    if entrypoint.method = "hold" then fun _ => holdDeed else echoDeed
  have allowed : mixedService.dispatcher.IsLocal deeds := by
    constructor
    · intro entrypoint member
      rcases List.mem_cons.mp member with rfl | member
      · exact echoEntrypoint_isLocal
      · rcases List.mem_cons.mp member with rfl | member
        · exact holdEntrypoint_isLocal
        · obtain rfl := List.mem_singleton.mp member
          exact ⟨echoEntrypoint_isLocal.onRequest, trivial, trivial, trivial⟩
    · nofun
  have uncancelled :
      mixedFrames.all (fun raw => raw.request?.all (·.method ≠ "cancel")) = true := by
    decide +kernel
  have batched := batching_changes_no_answers allowed () (fun _ _ => none) [] (by simp)
    [⟨[], [], mixedFrames⟩] [⟨[], [], mixedFrames.take 1⟩, .empty, ⟨[], [], mixedFrames.drop 1⟩]
    (by simp [Inbox.empty]) rfl (by
      intro raw sent request accepted
      have kept := List.all_eq_true.mp uncancelled raw (by simpa using sent)
      rw [accepted] at kept
      simpa using kept)
  exact ⟨batched.1, batched.2.1, by decide +kernel, by decide +kernel, by decide +kernel⟩

end Service

end RpcDispatch
