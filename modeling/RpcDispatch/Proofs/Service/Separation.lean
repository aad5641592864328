import RpcDispatch.Proofs.Dispatch.Concern
import RpcDispatch.Proofs.Service.Iteration

/-
This file shows that clients do not interfere: where the scripts of the application are local, what
a client hears is the same whether or not another client is there.
-/

namespace RpcDispatch

open Exchange (Still)

variable {σ : Type} {deeds : Entrypoint σ → Request → Deed} {dispatcher : Dispatcher σ}

/-! ### Views of an iteration -/

/-- Updating entrypoints touches no request when their update hooks do not. -/
theorem Registry.update_still (registry : Registry σ) (exchange : Exchange σ)
    (quiet : exchange.OthersQuiet)
    (allowed : ∀ entrypoint ∈ registry.entrypoints, entrypoint.onUpdate.IsQuiet) :
    Still exchange (registry.update exchange) := by
  unfold Registry.update
  generalize registry.entrypoints = entrypoints at allowed ⊢
  induction entrypoints generalizing exchange with
  | nil => exact .refl exchange
  | cons entrypoint entrypoints ih =>
      have called := (Still.refl exchange).called entrypoint.method .update
      have first : Still exchange (exchange.callUpdate entrypoint) :=
        called.trans (Exchange.run_still _ _ (called.quiet quiet) (allowed entrypoint (by simp)))
      exact first.trans
        (ih _ (first.quiet quiet) fun later member => allowed later (by simp [member]))

/-- Running the queue does to every view what can be told from that view. -/
theorem IsReady.runAll {state : TaskManager σ × Exchange σ} (ready : IsReady deeds state) :
    IsReady deeds (state.1.runAll state.2) ∧
      ∀ client, viewOf client (state.1.runAll state.2) = (viewOf client state).runAll deeds := by
  obtain ⟨manager, exchange⟩ := state
  obtain ⟨queued, pending, rfl, ready⟩ := ready
  obtain ⟨held, same, later, views⟩ := runAll_view ready
  generalize TaskManager.runAll ⟨queued.map .request, pending.map .request⟩ exchange = ran at *
  obtain ⟨manager, after⟩ := ran
  cases same
  refine ⟨⟨[], held, rfl, later⟩, fun client => ?_⟩
  rw [viewOf_request]
  exact (viewOf_request client [] held after).trans (views client)

/-- The steps that events make in the views of their clients. -/
def Dispatcher.Steps (dispatcher : Dispatcher σ) (deeds : Entrypoint σ → Request → Deed)
    (steps : Arrival → View σ → View σ) : Prop :=
  ∀ arrival state, IsReady deeds state →
    Concerns deeds arrival.client (steps arrival) state (dispatcher.handle state arrival)

/-- The view of a client after the given events. -/
def View.takeAll (steps : Arrival → View σ → View σ) (view : View σ) (arrivals : List Arrival) :
    View σ :=
  arrivals.foldl (fun view arrival => steps arrival view) view

variable {steps : Arrival → View σ → View σ}

/-- After a list of events every client has taken its own. -/
theorem IsReady.handleAll (known : dispatcher.Steps deeds steps) (arrivals : List Arrival)
    {state : TaskManager σ × Exchange σ} (ready : IsReady deeds state) :
    IsReady deeds (arrivals.foldl dispatcher.handle state) ∧
      ∀ client, viewOf client (arrivals.foldl dispatcher.handle state) =
        (viewOf client state).takeAll steps (arrivalsOf client arrivals) := by
  induction arrivals generalizing state with
  | nil => exact ⟨ready, fun client => rfl⟩
  | cons arrival arrivals ih =>
      have first := known arrival state ready
      obtain ⟨later, views⟩ := ih first.ready
      refine ⟨later, fun client => (views client).trans ?_⟩
      by_cases own : arrival.client = client
      · subst own
        rw [first.own, arrivalsOf_cons, if_pos rfl]
        rfl
      · rw [first.others client (Ne.symm own), arrivalsOf_cons, if_neg own]

namespace Service

/-- What clients can tell of a service. -/
def state (service : Service σ) : TaskManager σ × Exchange σ :=
  (service.manager, service.exchange)

/-- When the events of an iteration have been handled, every client has taken its own. -/
theorem handled_views (known : dispatcher.Steps deeds steps) {service : Service σ}
    (same : service.dispatcher = dispatcher) (ready : IsReady deeds service.state)
    (inbox : Inbox) :
    IsReady deeds (service.handled inbox) ∧
      ∀ client, viewOf client (service.handled inbox) =
        (viewOf client service.state).takeAll steps (arrivalsOf client inbox.order) := by
  have begun : Still service.exchange (service.begun inbox).2 :=
    service.begun_of_log inbox (Still service.exchange) (fun _ notice still => still.log notice)
      (.refl service.exchange)
  have logged := ready.still begun
  obtain ⟨later, views⟩ := IsReady.handleAll known inbox.order (logged ⟨0⟩).ready
  unfold handled
  rw [same]
  exact ⟨later, fun client => (views client).trans (by rw [(logged client).own]; rfl)⟩

/-- In an iteration every client takes its own events, and then its own queue is run. -/
theorem process_views (allowed : dispatcher.IsLocal deeds)
    (known : dispatcher.Steps deeds steps) {service : Service σ}
    (same : service.dispatcher = dispatcher) (ready : IsReady deeds service.state)
    (inbox : Inbox) :
    IsReady deeds (service.process inbox).state ∧
      ∀ client, viewOf client (service.process inbox).state =
        ((viewOf client service.state).takeAll steps
          (arrivalsOf client inbox.order)).runAll deeds := by
  obtain ⟨handled, taken⟩ := handled_views known same ready inbox
  obtain ⟨ran, views⟩ := handled.runAll
  have updated := service.dispatcher.registry.update_still _ ran.quiet fun entrypoint member =>
    (allowed.entrypoints entrypoint (same ▸ member)).onUpdate
  rw [process_eq_handled]
  refine ⟨(ran.still updated ⟨0⟩).ready, fun client => ?_⟩
  rw [← taken, ← views]
  exact (ran.still updated client).own

end Service

/-! ### Without one client -/

/-- The inbox without the events of a client. -/
def Inbox.without (client : ClientId) (inbox : Inbox) : Inbox where
  connected := inbox.connected.filter (· ≠ client)
  disconnected := inbox.disconnected.filter (· ≠ client)
  requests := inbox.requests.filter (·.client ≠ client)

theorem Inbox.order_without (client : ClientId) (inbox : Inbox) :
    (inbox.without client).order = inbox.order.filter (·.client ≠ client) := by
  simp only [order, without, List.filter_append, List.filter_map]
  rfl

/-- The events of the other clients stay. -/
theorem Inbox.arrivalsOf_without {client other : ClientId} (apart : client ≠ other)
    (inbox : Inbox) :
    arrivalsOf client (inbox.without other).order = arrivalsOf client inbox.order := by
  rw [order_without, arrivalsOf, List.filter_filter, arrivalsOf]
  refine List.filter_congr fun arrival _ => ?_
  by_cases own : arrival.client = client
  · simp [own, apart]
  · simp [own]

namespace Service

/-- Two services that a client cannot tell apart stay so over buffers with the same events of that
client. -/
theorem foldl_process_views (allowed : dispatcher.IsLocal deeds)
    (known : dispatcher.Steps deeds steps) {client other : ClientId} (apart : client ≠ other)
    (inboxes : List Inbox) {first second : Service σ} (left : first.dispatcher = dispatcher)
    (right : second.dispatcher = dispatcher) (ready : IsReady deeds first.state)
    (prepared : IsReady deeds second.state)
    (same : viewOf client first.state = viewOf client second.state) :
    viewOf client (inboxes.foldl process first).state =
      viewOf client ((inboxes.map (Inbox.without other)).foldl process second).state := by
  induction inboxes generalizing first second with
  | nil => exact same
  | cons inbox inboxes ih =>
      obtain ⟨later, views⟩ := process_views allowed known left ready inbox
      obtain ⟨after, others⟩ := process_views allowed known right prepared (inbox.without other)
      refine ih left right later after ?_
      rw [views, others, same, Inbox.arrivalsOf_without apart]

/-- Clients do not interfere.  Where what a request hook does depends on its request alone, and all
other code of the application touches no request, the texts that are handed to the sender of a
client are the same when all events of another client are deleted from the buffers. -/
theorem clients_do_not_interfere (allowed : dispatcher.IsLocal deeds) (state : σ)
    (senders : ClientId → Nat → Option SendFault) (others : List (List (Act σ)))
    (quiet : ∀ acts ∈ others, ∀ act ∈ acts, act.IsQuiet) (inboxes : List Inbox)
    (client other : ClientId) (apart : client ≠ other) :
    let start : Service σ := .create dispatcher { Exchange.start state senders with others }
    (inboxes.foldl process start).exchange.textsTo client =
      ((inboxes.map (Inbox.without other)).foldl process start).exchange.textsTo client := by
  intro start
  have ready : IsReady deeds start.state :=
    ⟨[], [], rfl, quiet, by simp, by simp, by simp, by simp⟩
  choose steps known using IsReady.handle allowed
  exact congrArg View.texts
    (foldl_process_views allowed known apart inboxes rfl rfl ready ready rfl)

/-- A method that answers later, if it is not cancelled before, with what it is given. -/
def echoEntrypoint : Entrypoint Unit :=
  { method := "echo"
    isAsync := true
    onRequest := fun key request => .act (.reply key (.ok request.params)) (.done .success) }

/-- What the method does for a request. -/
def echoDeed (request : Request) : Deed :=
  let answered := (Channel.open request).answer fun id => Rpc.replyText id request.params
  ⟨answered.2, answered.1.answered, answered.1.closed, .success⟩

theorem echoEntrypoint_isLocal : echoEntrypoint.IsLocal echoDeed := by
  refine ⟨fun key request exchange quiet opened => ?_, trivial, trivial, trivial⟩
  have paused := exchange.pause_still quiet
  have turn := (exchange.pause.answer_turn (fun id => Rpc.replyText id request.params)
    ((paused.channel? key).trans opened)).since paused
  have same := Channel.answer_request (.open request) fun id => Rpc.replyText id request.params
  refine ⟨rfl, turn.channels.trans ?_, fun client => (turn.texts client).trans ?_⟩
  · exact congrArg (fun owner => exchange.channels.set key
      ⟨owner, (echoDeed request).answered, (echoDeed request).closed⟩) same
  · rw [same]
    rfl

/-- Two clients call the method, and the second one tries to cancel the call of the first one. -/
def echoInbox : Inbox :=
  let frame (client : Nat) (message : Rpc.Message) : RawRequest :=
    ⟨⟨client⟩, message.text.toUTF8.toList, .text⟩
  { connected := [⟨1⟩, ⟨2⟩]
    requests := [
      frame 1 (.request "echo" (.string "hello") (.integer 1)),
      frame 2 (.request "echo" (.string "again") (.integer 2)),
      frame 2 (.request "cancel" (.object [("id", .integer 1)]) (.integer 3))]
    disconnected := [⟨2⟩] }

/-- The first client hears its answer, with the second client and without it. -/
theorem clients_do_not_interfere_echo :
    let start : Service Unit :=
      .create ⟨⟨builtinMethods, [echoEntrypoint]⟩, none⟩ (.start () fun _ _ => none)
    (start.process echoInbox).exchange.textsTo ⟨1⟩ =
        [Rpc.replyText (.integer 1) (.string "hello")] ∧
      (start.process (echoInbox.without ⟨2⟩)).exchange.textsTo ⟨1⟩ =
        [Rpc.replyText (.integer 1) (.string "hello")] := by
  intro start
  have allowed : start.dispatcher.IsLocal fun _ => echoDeed := by
    refine ⟨fun entrypoint member => ?_, fun consumer none => by cases none⟩
    rw [List.mem_singleton.mp member]
    exact echoEntrypoint_isLocal
  have heard : (start.process echoInbox).exchange.textsTo ⟨1⟩ =
      [Rpc.replyText (.integer 1) (.string "hello")] := by
    decide +kernel
  refine ⟨heard, heard ▸ ?_⟩
  exact (clients_do_not_interfere allowed () (fun _ _ => none) [] (by simp) [echoInbox] ⟨1⟩ ⟨2⟩
    (by decide)).symm

end Service

end RpcDispatch
