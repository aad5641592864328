import RpcDispatch.Proofs.Dispatch.Framing
import RpcDispatch.Proofs.Rpc.RoundTrip
import RpcDispatch.Proofs.Service.Answers
import RpcDispatch.Proofs.Service.Tracking
import RpcDispatch.Proofs.Task.Refusal

/-
This file says what becomes of a request to cancel whose params are no object.  It is refused, and
nothing else happens, unless the params are an array of one identifier that names a task which can
be cancelled.
-/

namespace RpcDispatch

open Exchange (Leads Untouched)

variable {σ : Type}

/-! ### Params that are no object -/

/-- An array names an identifier when this is its only item. -/
def CancelParams.Names (params : Json.Value) (id : Rpc.Id) : Prop :=
  ∃ value, params = .array [value] ∧ Rpc.Identifies (some value) id

/-- An array with items is read when its only item is an identifier. -/
theorem CancelParams.decoder_cons {value : Json.Value} {items : List Json.Value}
    {found : CancelParams} :
    CancelParams.record.decoder.ofValue (.array (value :: items)) = .ok found ↔
      items = [] ∧ Rpc.Id.ofValue? value = some found.id := by
  obtain ⟨id⟩ := found
  cases identifier : Rpc.Id.ofValue? value with
  | none =>
      simp [Json.Record.decoder, Json.Record.ofItems, Json.Record.takeItems, CancelParams.record,
        Json.Decoder.map, Rpc.Id.decoder, Json.Decoder.untagged, identifier, Except.map]
  | some named =>
      cases items <;>
        simp [Json.Record.decoder, Json.Record.ofItems, Json.Record.takeItems, CancelParams.record,
          Json.Decoder.map, Rpc.Id.decoder, Json.Decoder.untagged, identifier, Except.map]

/-- The identifier that an array names is read from it. -/
theorem CancelParams.Names.read {params : Json.Value} {id : Rpc.Id} (names : Names params id) :
    record.decoder.ofValue params = .ok ⟨id⟩ := by
  obtain ⟨value, rfl, identifies⟩ := names
  exact decoder_cons.mpr ⟨rfl, Rpc.identifies_some_iff.mp identifies⟩

/-- Of all other values than objects the params are read from an empty array, without an
identifier, and from an array that names one. -/
theorem CancelParams.decoder_eq_ok {params : Json.Value}
    (other : ∀ members, params ≠ .object members) {found : CancelParams} :
    CancelParams.record.decoder.ofValue params = .ok found ↔
      params = .array [] ∧ found.id = .absent ∨ CancelParams.Names params found.id := by
  constructor
  · intro read
    cases params with
    | object members => exact absurd rfl (other members)
    | array items =>
        cases items with
        | nil =>
            cases read
            exact .inl ⟨rfl, rfl⟩
        | cons value items =>
            obtain ⟨rfl, identifier⟩ := decoder_cons.mp read
            exact .inr ⟨value, rfl, Rpc.identifies_some_iff.mpr identifier⟩
    | _ => cases read
  · rintro (⟨rfl, absent⟩ | names)
    · obtain ⟨id⟩ := found
      cases absent
      rfl
    · exact names.read

/-- The text of a request is accepted as that request. -/
theorem RawRequest.request?_text (client : ClientId) {message : Rpc.Message}
    (supported : message.jsonrpc = Rpc.version) (named : message.method ≠ "")
    (fits : message.id.Fits) (portable : Json.Portable 126 message.params) :
    (⟨client, Text.Utf8.encode message.text, .text⟩ : RawRequest).request? =
      some ⟨client, message, []⟩ := by
  have parsed := Rpc.Envelope.parse_framed supported named fits portable
    (.text (Text.Utf8.encode message.text))
  unfold RawRequest.request?
  dsimp only
  unfold RawRequest.request?.parsed
  rw [parsed]

namespace Dispatcher

variable {dispatcher : Dispatcher σ} {manager : TaskManager σ} {exchange : Exchange σ}
  {key : Key} {request : Request}

/-- An accepted frame is routed once its request is welcomed. -/
theorem dispatchRequest_accepted {raw : RawRequest} (accepted : raw.request? = some request) :
    dispatcher.dispatchRequest raw manager exchange =
      dispatcher.route exchange.channels.length request manager (exchange.welcome request) := by
  have envelope (same : RawRequest.request?.parsed raw = some request) :
      dispatcher.dispatchEnvelope raw manager exchange =
        dispatcher.route exchange.channels.length request manager (exchange.welcome request) := by
    rw [dispatchEnvelope_eq]
    unfold RawRequest.request?.parsed at same
    cases parsed : Rpc.Envelope.parse raw.payload raw.framing with
    | error rejection =>
        rw [parsed] at same
        cases same
    | ok envelope =>
        rw [parsed] at same
        cases same
        rfl
  unfold RawRequest.request? at accepted
  unfold dispatchRequest
  split
  · next framing =>
      rw [framing] at accepted
      exact envelope accepted
  · next framing =>
      rw [framing] at accepted
      dsimp only [Rpc.split] at accepted
      split
      · next fault split =>
          rw [split] at accepted
          cases accepted
      · next parts split =>
          rw [split] at accepted
          dsimp only at accepted
          split_ifs at accepted ⊢
          exact envelope accepted

/-- The params of a request to cancel were refused: every task is as it was, unless it is forgotten
because it is no longer pending, no hook was called, and the answer says that the params are
invalid. -/
structure RefusesParams (key : Key) (request : Request) (manager : TaskManager σ)
    (exchange : Exchange σ) (result : TaskManager σ × Exchange σ) : Prop where
  queue : result.1.queue = manager.queue
  pending : result.1.pending.Sublist manager.pending
  calls : result.2.calls = exchange.calls
  answer : request.isNotification = false → ∃ message,
    result.2.answersTo key =
      [⟨.answer key, request.client, Rpc.errorText request.id (.invalidParams message [])⟩]

/-- An answer after a turn of the other threads calls no hook. -/
theorem pause_perform_calls {act : Act σ} (answers : act.Answers key) (exchange : Exchange σ) :
    (exchange.pause.perform act).calls = exchange.calls := by
  have quiet : Leads anyKey noHook exchange (exchange.pause.perform act) := answers.leads exchange
  exact quiet.calls_quiet exchange.othersCloseOnly_anyKey

/-- Answering an outcome calls no hook. -/
theorem conclude_calls (outcome : Except Rpc.Error Unit) (exchange : Exchange σ) :
    (conclude key outcome exchange).calls = exchange.calls := by
  obtain ⟨act, answers, same⟩ := @conclude_answers σ key outcome
  rw [same]
  exact pause_perform_calls answers exchange

/-- Where the tasks stay as they are and the request is untouched, an error of its params is its
answer. -/
theorem refusesParams_error {kept : TaskManager σ} {asked : Exchange σ} {valid : σ → Prop}
    (queue : kept.queue = manager.queue) (pending : kept.pending.Sublist manager.pending)
    (calls : asked.calls = exchange.calls) (untouched : asked.Untouched valid key)
    (enrolled : asked.requests[key]? = some request) (message : String) :
    RefusesParams key request manager exchange
      (kept, conclude key (.error (.invalidParams message [])) asked) where
  queue := queue
  pending := pending
  calls := (conclude_calls _ asked).trans calls
  answer expected := by
    have answered := untouched.answer_paused enrolled expected
      fun id => Rpc.errorText id (.invalidParams message [])
    exact ⟨message, answered.2⟩

/-- A cancellation that the manager refuses for its params refuses the params of its request. -/
theorem refusesParams_refused {asked : Exchange σ} {valid : σ → Prop}
    {result : Except Rpc.Error Unit × TaskManager σ × Exchange σ}
    (refused : manager.Refused asked result) (calls : asked.calls = exchange.calls)
    (untouched : asked.Untouched valid key) (enrolled : asked.requests[key]? = some request) :
    RefusesParams key request manager exchange
      (result.2.1, conclude key result.1 result.2.2) := by
  obtain ⟨message, error⟩ := refused.error
  rw [error]
  rcases refused.asked with same | same
  · rw [same]
    exact refusesParams_error refused.queue refused.pending calls untouched enrolled message
  · have pruned : Leads anyKey noHook asked (manager.prune asked).2 :=
      TaskManager.keepPending_leads manager.pending asked
    have within := asked.othersCloseOnly_anyKey
    rw [same]
    refine refusesParams_error refused.queue refused.pending
      ((pruned.calls_quiet within).trans calls)
      (TaskManager.keepPending_untouched manager.pending untouched) ?_ message
    rw [pruned.requests within]
    exact enrolled

end Dispatcher

/-! ### The request that is welcomed -/

namespace Exchange

variable {exchange : Exchange σ}

theorem welcome_calls (request : Request) : (exchange.welcome request).calls = exchange.calls :=
  Exchange.log_calls _ _

theorem welcome_requests (request : Request) :
    (exchange.welcome request).requests[exchange.channels.length]? = some request := by
  have requests : (exchange.welcome request).requests = exchange.requests ++ [request] :=
    exchange.enroll_requests request
  rw [requests, ← exchange.length_requests]
  simp

/-- Nobody has acted on a request that is welcomed, if there is no answer to it and no other thread
acts on it before it has come. -/
theorem welcome_untouched (request : Request) {valid : σ → Prop} (state : valid exchange.state)
    (silent : exchange.answersTo exchange.channels.length = [])
    (unshared : ∀ acts ∈ exchange.others, ∀ act ∈ acts,
      act.Spares valid exchange.channels.length) :
    (exchange.welcome request).Untouched valid exchange.channels.length := by
  have absent : exchange.channel? exchange.channels.length = none :=
    List.getElem?_eq_none (Nat.le_refl _)
  have untouched : exchange.Untouched valid exchange.channels.length :=
    ⟨state, unshared, by simp [isClosed, absent], by simp [isAnswered, absent], silent⟩
  exact (untouched.enroll request).log _

/-- There are no answers to a request that has not come yet. -/
theorem Accurate.answersTo_next (accurate : exchange.Accurate) :
    exchange.answersTo exchange.channels.length = [] := by
  have absent : exchange.channel? exchange.channels.length = none :=
    List.getElem?_eq_none (Nat.le_refl _)
  rw [← List.length_eq_zero_iff, accurate.counted, isAnswered, absent]
  rfl

end Exchange

/-- A request that is welcomed has no task yet. -/
theorem Dispatcher.Keeps.welcome {dispatcher : Dispatcher σ} {since : Key}
    {manager : TaskManager σ} {exchange : Exchange σ}
    (keeps : dispatcher.Keeps since manager exchange) (request : Request) :
    manager.Accounts since (dispatcher.enlisted since exchange.requests)
      (exchange.welcome request) := by
  have logged : Leads anyKey noHook (exchange.enroll request).2 (exchange.welcome request) :=
    (Leads.refl _).log _
  exact (keeps.accounts.enroll request).quiet logged fun _ => ⟨id, id⟩

namespace Service

/-- The manager and the exchange of a service when a frame is dispatched.  Since the last step of
the run there were reports, and other frames have been dispatched. -/
inductive AtFrame (dispatcher : Dispatcher σ) : TaskManager σ → Exchange σ → Prop where
  | run {taken : List RawRequest} {since : Key} {service : Service σ}
      (run : Run dispatcher taken since service) :
      AtFrame dispatcher service.manager service.exchange
  | log {manager : TaskManager σ} {exchange : Exchange σ} (notice : Log.Notice)
      (reached : AtFrame dispatcher manager exchange) :
      AtFrame dispatcher manager (exchange.log notice)
  | frame {manager : TaskManager σ} {exchange : Exchange σ} (raw : RawRequest)
      (reached : AtFrame dispatcher manager exchange) :
      AtFrame dispatcher (dispatcher.dispatchRequest raw manager exchange).1
        (dispatcher.dispatchRequest raw manager exchange).2

variable {dispatcher : Dispatcher σ} {manager : TaskManager σ} {exchange : Exchange σ}

/-- When a frame is dispatched the tasks are accounted for, and the texts are those of the requests
that came. -/
theorem AtFrame.keeps (reached : AtFrame dispatcher manager exchange) :
    (∃ since, dispatcher.Keeps since manager exchange) ∧ exchange.Accurate := by
  induction reached with
  | run run =>
      have keeps := run.keeps
      rw [run.dispatcher_eq] at keeps
      exact ⟨⟨_, keeps⟩, run.accurate.1⟩
  | @log manager exchange notice _ ih =>
      obtain ⟨⟨since, keeps⟩, accurate⟩ := ih
      have logged : Leads anyKey anyHook exchange (exchange.log notice) :=
        (Leads.refl exchange).log notice
      exact ⟨⟨since, keeps.log notice⟩, accurate.grow logged.grows⟩
  | frame raw _ ih =>
      obtain ⟨⟨since, keeps⟩, accurate⟩ := ih
      exact ⟨⟨since, keeps.dispatchRequest raw⟩,
        accurate.grow (keeps.dispatchRequest_grows dispatcher.closesOnly_anyKey raw)⟩

/-- At every moment of a run, an accepted request to cancel whose params are no object is refused,
provided that no other thread acts on it before it has come, exactly when its params are not an
array of one identifier that names a task which can be cancelled. -/
theorem cancel_refuses_params_iff (reached : AtFrame dispatcher manager exchange)
    {raw : RawRequest} {request : Request} (accepted : raw.request? = some request)
    (method : request.method = "cancel") (other : ∀ members, request.params ≠ .object members)
    (unshared : ∀ acts ∈ exchange.others, ∀ act ∈ acts,
      act.Spares (fun _ => True) exchange.channels.length) :
    Dispatcher.RefusesParams exchange.channels.length request manager exchange
        (dispatcher.dispatchRequest raw manager exchange) ↔
      ¬ ∃ id, CancelParams.Names request.params id ∧ id.isEmpty = false ∧
        manager.Cancellable request.client id (exchange.welcome request) := by
  obtain ⟨⟨since, keeps⟩, accurate⟩ := reached.keeps
  have untouched := exchange.welcome_untouched request trivial accurate.answersTo_next
    unshared
  have enrolled := exchange.welcome_requests request
  have calls := exchange.welcome_calls request
  have accounts := keeps.welcome request
  rw [Dispatcher.dispatchRequest_accepted accepted, Dispatcher.route, if_pos method]
  cases read : CancelParams.record.decoder.ofValue request.params with
  | error shape =>
      rw [Dispatcher.cancel_eq, read]
      refine iff_of_true (Dispatcher.refusesParams_error rfl (.refl _) calls untouched enrolled
        shape.message) ?_
      rintro ⟨id, names, _⟩
      have readable := CancelParams.Names.read names
      rw [read] at readable
      cases readable
  | ok params =>
      rw [Dispatcher.cancel_eq, read]
      by_cases able : ∃ id, CancelParams.Names request.params id ∧ id.isEmpty = false ∧
          manager.Cancellable request.client id (exchange.welcome request)
      · refine iff_of_false (fun refuses => ?_) (not_not_intro able)
        obtain ⟨id, names, named, cancellable⟩ := able
        obtain rfl : params.id = id := by
          have readable := CancelParams.Names.read names
          rw [read] at readable
          cases readable
          rfl
        rcases accounts.cancel_shows cancellable named with marked | called
        · exact marked refuses.queue
        · exact called ((Dispatcher.conclude_calls _ _).symm.trans (refuses.calls.trans calls.symm))
      · refine iff_of_true ?_ able
        have barred : params.id.isEmpty = false →
            ¬ manager.Cancellable request.client params.id (exchange.welcome request) := by
          intro named cancellable
          rcases (CancelParams.decoder_eq_ok other).mp read with ⟨_, absent⟩ | names
          · rw [absent] at named
            cases named
          · exact able ⟨_, names, named, cancellable⟩
        exact Dispatcher.refusesParams_refused (accounts.holdsRequests.cancel_refused barred) calls
          untouched enrolled

/-- A call of the method that is answered later, if at all, has run. -/
def heldService : Service Unit :=
  (holdService.notify (.request ⟨⟨1⟩, holdRequest.message.text.toUTF8.toList, .text⟩)).poll

theorem heldService_reached :
    AtFrame holdService.dispatcher heldService.manager heldService.exchange :=
  .run (((Run.create () (fun _ _ => none) []).notify
    (.request ⟨⟨1⟩, holdRequest.message.text.toUTF8.toList, .text⟩)).poll)

/-- A request to cancel with the given params. -/
def cancelRequest (params : Json.Value) : Request :=
  ⟨⟨1⟩, .request "cancel" params (.integer 2), []⟩

def cancelFrame (params : Json.Value) : RawRequest :=
  ⟨⟨1⟩, Text.Utf8.encode (cancelRequest params).message.text, .text⟩

theorem cancelFrame_accepted {params : Json.Value} (portable : Json.Portable 126 params) :
    (cancelFrame params).request? = some (cancelRequest params) := by
  have fits : (Rpc.Id.integer 2).Fits := by constructor <;> decide
  have named : (cancelRequest params).message.method ≠ "" := by
    change "cancel" ≠ ""
    decide
  exact RawRequest.request?_text ⟨1⟩ rfl named fits portable

/-- The identifier of the call does not cancel it when it stands alone. -/
theorem cancel_refuses_params_iff_lone :
    (cancelFrame (.integer 1)).request? = some (cancelRequest (.integer 1)) ∧
      Dispatcher.RefusesParams 1 (cancelRequest (.integer 1)) heldService.manager
        heldService.exchange (holdService.dispatcher.dispatchRequest
          (cancelFrame (.integer 1)) heldService.manager heldService.exchange) := by
  have accepted := cancelFrame_accepted (.integer (by decide) : Json.Portable 126 (.integer 1))
  have alone : heldService.exchange.others = [] := List.isEmpty_iff.mp (by decide +kernel)
  have count : heldService.exchange.channels.length = 1 := by decide +kernel
  have unnamed : ¬ ∃ id, CancelParams.Names (.integer 1) id ∧ id.isEmpty = false ∧
      heldService.manager.Cancellable ⟨1⟩ id
        (heldService.exchange.welcome (cancelRequest (.integer 1))) := by
    rintro ⟨_, ⟨_, same, _⟩, _⟩
    cases same
  have refuses := (cancel_refuses_params_iff heldService_reached accepted rfl
    (fun _ same => by cases same) (by simp [alone])).mpr unnamed
  rw [count] at refuses
  exact ⟨accepted, refuses⟩

/-- The identifier of the call cancels it when it stands in an array. -/
theorem cancel_takes_params_array :
    AtFrame holdService.dispatcher heldService.manager heldService.exchange ∧
      heldService.exchange.others = [] ∧
      (cancelFrame (.array [.integer 1])).request? = some (cancelRequest (.array [.integer 1])) ∧
      (holdService.dispatcher.dispatchRequest (cancelFrame (.array [.integer 1]))
        heldService.manager heldService.exchange).2.calls =
          heldService.exchange.calls ++ [.cancel 0] ∧
      ¬ Dispatcher.RefusesParams 1 (cancelRequest (.array [.integer 1])) heldService.manager
        heldService.exchange (holdService.dispatcher.dispatchRequest
          (cancelFrame (.array [.integer 1])) heldService.manager heldService.exchange) := by
  have portable : Json.Portable 126 (.array [.integer 1]) := by
    apply Json.Portable.array
    intro value member
    rw [List.mem_singleton.mp member]
    exact .integer (by decide)
  have alone : heldService.exchange.others = [] := List.isEmpty_iff.mp (by decide +kernel)
  have called : (holdService.dispatcher.dispatchRequest (cancelFrame (.array [.integer 1]))
      heldService.manager heldService.exchange).2.calls =
        heldService.exchange.calls ++ [.cancel 0] := by decide +kernel
  refine ⟨heldService_reached, alone, cancelFrame_accepted portable, called, fun refuses => ?_⟩
  have same := called.symm.trans refuses.calls
  simp at same

end Service

end RpcDispatch
