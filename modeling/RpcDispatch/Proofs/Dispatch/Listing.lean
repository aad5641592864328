import RpcDispatch.Proofs.Dispatch.Reaching
import RpcDispatch.Proofs.Dispatch.Registry
import RpcDispatch.Proofs.Rpc.Outbound
import RpcDispatch.Proofs.Text.Order

/-
This file says that the listing of methods and the routing of requests agree, although they are kept
in different places: the methods that are listed are those that are known to the dispatcher.
-/

namespace RpcDispatch

variable {σ : Type}

/-! ### The names that are listed -/

namespace Dispatcher

variable {dispatcher : Dispatcher σ} {manager : TaskManager σ} {exchange : Exchange σ} {key : Key}
  {request : Request} {raw : RawRequest}

theorem methodNames_sorted (dispatcher : Dispatcher σ) :
    dispatcher.methodNames.Pairwise (· < ·) :=
  List.pairwise_map.mpr (Json.collects_collectMembers _).sorted

theorem mem_methodNames {method : String} : method ∈ dispatcher.methodNames ↔
    method ∈ dispatcher.registry.methods ∨ method ∈ builtinMethods := by
  unfold methodNames
  rw [(Json.collects_collectMembers _).mem_names, List.map_map, ← List.mem_append]
  simp

/-- A method is listed when it is built in or has a handler. -/
theorem listed_iff : request.method ∈ dispatcher.methodNames ↔
    request.method ∈ builtinMethods ∨
      ∃ entrypoint, dispatcher.handler? request = some entrypoint := by
  rw [mem_methodNames, handler?]
  split_ifs with builtin
  · exact iff_of_true (.inr builtin) (.inl builtin)
  · rw [← Registry.find?_isSome, Option.isSome_iff_exists]
    exact ⟨fun known => .inr (known.resolve_right builtin),
      fun known => .inl (known.resolve_left builtin)⟩

/-! ### What unknown methods are answered -/

/-- The dispatcher itself answers that the method is unknown.  No task is added or changed, and no
hook is called. -/
structure Unknown (key : Key) (request : Request) (manager : TaskManager σ)
    (exchange : Exchange σ) (result : TaskManager σ × Exchange σ) : Prop where
  manager : result.1 = manager
  calls : result.2.calls = exchange.calls
  answer : result.2.answersTo key =
    [⟨.answer key, request.client, Rpc.errorText request.id (.methodNotFound request.method)⟩]

/-- A moment at which a frame is dispatched: the tasks are those of requests, and nobody has acted
on the request that comes next, nor does another thread before it has come. -/
structure AwaitsFrame (manager : TaskManager σ) (exchange : Exchange σ) : Prop where
  own : manager.HoldsRequests
  silent : exchange.answersTo exchange.channels.length = []
  unshared : ∀ acts ∈ exchange.others, ∀ act ∈ acts,
    act.Spares (fun _ => True) exchange.channels.length

/-- Every run of a service comes to such moments only. -/
theorem awaitsFrame_of_atFrame (reached : Service.AtFrame dispatcher manager exchange)
    (unshared : ∀ acts ∈ exchange.others, ∀ act ∈ acts,
      act.Spares (fun _ => True) exchange.channels.length) : AwaitsFrame manager exchange := by
  obtain ⟨⟨_, keeps⟩, accurate⟩ := reached.keeps
  exact ⟨keeps.accounts.holdsRequests, accurate.answersTo_next, unshared⟩

theorem AwaitsFrame.untouched (awaits : AwaitsFrame manager exchange) (request : Request) :
    (exchange.welcome request).Untouched (fun _ => True) exchange.channels.length :=
  exchange.welcome_untouched request trivial awaits.silent awaits.unshared

/-- A request to cancel is refused for its params, or a task is changed. -/
theorem cancel_refuses_or_marks {valid : σ → Prop} (holds : manager.HoldsRequests)
    (untouched : exchange.Untouched valid key)
    (enrolled : exchange.requests[key]? = some request) :
    RefusesParams key request manager exchange (cancel key request manager exchange) ∨
      (cancel key request manager exchange).1 ≠ manager := by
  cases read : CancelParams.record.decoder.ofValue request.params with
  | error shape =>
      rw [cancel_eq, read]
      exact .inl (refusesParams_error rfl (.refl _) rfl untouched enrolled shape.message)
  | ok params =>
      rw [cancel_eq, read]
      by_cases able : params.id.isEmpty = false ∧
          manager.Cancellable request.client params.id exchange
      · exact .inr (holds.cancel_marks able.2 able.1)
      · exact .inl (refusesParams_refused
          (holds.cancel_refused fun named cancellable => able ⟨named, cancellable⟩) rfl untouched
          enrolled)

/-- A request for a method that is not listed is answered as unknown. -/
theorem unknown_of_unlisted {valid : σ → Prop} (untouched : exchange.Untouched valid key)
    (enrolled : exchange.requests[key]? = some request) (expected : request.isNotification = false)
    (unlisted : request.method ∉ dispatcher.methodNames) :
    Unknown key request manager exchange (dispatcher.route key request manager exchange) := by
  rw [mem_methodNames, not_or, ← Registry.find?_isSome, Bool.not_eq_true,
    Option.isSome_eq_false_iff, Option.isNone_iff_eq_none] at unlisted
  obtain ⟨absent, apart⟩ := unlisted
  simp only [builtinMethods, List.mem_cons, List.not_mem_nil, or_false, not_or] at apart
  have same : dispatcher.route key request manager exchange =
      (manager, (exchange.log (.unknownMethod request.client request.method)).pause.error key
        (.methodNotFound request.method)) := by
    rw [route, if_neg apart.1, if_neg apart.2, absent]
  rw [same]
  constructor
  · rfl
  · have answers : (Act.error key (.methodNotFound request.method) : Act σ).Answers key :=
      .inr ⟨_, rfl⟩
    exact (pause_perform_calls answers _).trans (exchange.log_calls _)
  · have logged := untouched.log (.unknownMethod request.client request.method)
    have answered := logged.answer_paused enrolled expected
      fun id => Rpc.errorText id (.methodNotFound request.method)
    exact answered.2

/-- The method that lists all methods replies with their names. -/
theorem route_registry (dispatcher : Dispatcher σ) (method : request.method = "registry")
    {valid : σ → Prop} (untouched : exchange.Untouched valid key)
    (enrolled : exchange.requests[key]? = some request) (expected : request.isNotification = false)
    (fits : request.id.Fits) :
    ∃ text after, dispatcher.route key request manager exchange = (manager, after) ∧
      after.answersTo key = [⟨.answer key, request.client, text⟩] ∧
      Rpc.ReadsReply request.id (.array (dispatcher.methodNames.map .string)) text := by
  have portable : Json.Portable 126 (.array (dispatcher.methodNames.map .string)) := by
    apply Json.Portable.array
    rw [List.forall_mem_map]
    exact fun name _ => .string name
  have answered := untouched.answer_paused enrolled expected
    fun id => Rpc.replyText id (.array (dispatcher.methodNames.map .string))
  refine ⟨_, _, ?_, answered.2, Rpc.replyText_reads fits portable⟩
  rw [route, if_neg (by simp [method]), if_pos method]
  rfl

/-- A method that is listed is not answered as unknown. -/
theorem known_of_listed {valid : σ → Prop} (holds : manager.HoldsRequests)
    (untouched : exchange.Untouched valid key)
    (enrolled : exchange.requests[key]? = some request) (expected : request.isNotification = false)
    (fits : request.id.Fits) (listed : request.method ∈ dispatcher.methodNames) :
    ¬ Unknown key request manager exchange (dispatcher.route key request manager exchange) := by
  intro unknown
  -- a built-in method gives another answer, and the two are not read alike
  have reads := Rpc.errorText_reads fits (.methodNotFound request.method)
  have answer := unknown.answer
  rcases listed_iff.mp listed with builtin | ⟨entrypoint, handled⟩
  · simp only [builtinMethods, List.mem_cons, List.not_mem_nil, or_false] at builtin
    rcases builtin with isCancel | isRegistry
    · rw [route, if_pos isCancel] at unknown answer
      rcases cancel_refuses_or_marks holds untouched enrolled with refuses | marks
      · obtain ⟨message, refusal⟩ := refuses.answer expected
        rw [refusal] at answer
        simp only [List.cons.injEq, Delivery.mk.injEq, true_and, and_true] at answer
        rw [← answer] at reads
        have code := reads.code_eq (Rpc.errorText_reads fits (.invalidParams message []))
        cases code
      · exact marks unknown.manager
    · obtain ⟨text, after, same, reply, listing⟩ :=
        dispatcher.route_registry isRegistry untouched enrolled expected fits
      rw [same, reply] at answer
      simp only [List.cons.injEq, Delivery.mk.injEq, true_and, and_true] at answer
      rw [← answer] at reads
      exact listing.not_error reads
  · have reaches : Reaches entrypoint key request manager exchange
        (dispatcher.route key request manager exchange) := reaches_route handled
    refine not_reaches ?_ ?_ reaches
    · rw [unknown.manager]
    · rw [unknown.calls]

/-- An entrypoint is not hidden by a built-in method if its registry reserves their names. -/
theorem handler?_builtin (offered : List (Entrypoint σ)) (consumer : Option (Consumer σ))
    {entrypoint : Entrypoint σ}
    (member : entrypoint ∈ (builtinRegistry.offerAll offered).entrypoints)
    (method : request.method = entrypoint.method) :
    Dispatcher.handler? ⟨builtinRegistry.offerAll offered, consumer⟩ request = some entrypoint := by
  obtain ⟨sound, reserved⟩ := (Registry.sound_empty builtinMethods).offerAll offered
  have free := (sound.named entrypoint.method (List.mem_map_of_mem member)).2
  rw [reserved] at free
  rw [handler?, if_neg (method ▸ free), method]
  exact sound.find?_eq_some member

/-! ### Accepted requests -/

/-- The identifier of an accepted request is one that requests can have. -/
theorem fits_of_accepted (accepted : raw.request? = some request) : request.id.Fits := by
  obtain ⟨envelope, parsed, rfl⟩ := RawRequest.parse_of_request? accepted
  exact (Rpc.Envelope.portable_of_parse parsed).1

/-- A call without params. -/
def bareCall (client : ClientId) (method : String) : Request :=
  ⟨client, .request method .null (.integer 0), []⟩

def bareFrame (client : ClientId) (method : String) : RawRequest :=
  ⟨client, Text.Utf8.encode (bareCall client method).message.text, .text⟩

/-- Every name but the empty one is the method of an accepted request. -/
theorem bareFrame_accepted (client : ClientId) {method : String} (named : method ≠ "") :
    (bareFrame client method).request? = some (bareCall client method) := by
  have fits : (bareCall client method).message.id.Fits := by constructor <;> decide
  exact RawRequest.request?_text client rfl named fits .null

/-- An accepted request is answered as unknown exactly when its method is not listed. -/
theorem unknown_iff (dispatcher : Dispatcher σ) (awaits : AwaitsFrame manager exchange)
    (accepted : raw.request? = some request) (expected : request.isNotification = false) :
    Unknown exchange.channels.length request manager exchange
        (dispatcher.dispatchRequest raw manager exchange) ↔
      request.method ∉ dispatcher.methodNames := by
  have untouched := awaits.untouched request
  have enrolled := exchange.welcome_requests request
  have fits := fits_of_accepted accepted
  have calls := exchange.welcome_calls request
  rw [dispatchRequest_accepted accepted]
  constructor
  · intro unknown listed
    refine known_of_listed awaits.own untouched enrolled expected fits listed
      ⟨unknown.manager, unknown.calls.trans calls.symm, unknown.answer⟩
  · intro unlisted
    have unknown : Unknown _ request manager _ _ :=
      unknown_of_unlisted untouched enrolled expected unlisted
    exact ⟨unknown.manager, unknown.calls.trans calls, unknown.answer⟩

/-- The registry and the routing agree.  A registry is what `Registry.Holds` says of it, whatever it
was offered.  In a dispatcher the names that are listed are in order and those of the methods that
are known, of all the names that requests can have.  A registry that reserves the names of the
built-in methods has no entrypoint that they hide: each is reached by the requests for its method,
and by no other. -/
theorem registry_agrees_with_routing (reserved : List String) (offered : List (Entrypoint σ))
    (consumer : Option (Consumer σ)) :
    let registry := (Registry.empty reserved).offerAll offered
    let dispatcher : Dispatcher σ := ⟨registry, consumer⟩
    let builtin : Dispatcher σ := ⟨builtinRegistry.offerAll offered, consumer⟩
    registry.Holds reserved offered ∧
    Text.Increasing dispatcher.methodNames ∧
    "" ∉ dispatcher.methodNames ∧
    (∀ client, ∀ method ≠ "", ∃ (raw : RawRequest) (request : Request),
      raw.request? = some request ∧ request.client = client ∧ request.method = method ∧
        request.isNotification = false) ∧
    (∀ manager exchange raw request, AwaitsFrame manager exchange →
      raw.request? = some request → request.isNotification = false →
        let key := exchange.channels.length
        let result := dispatcher.dispatchRequest raw manager exchange
        (request.method ∈ dispatcher.methodNames ↔
          ¬ Unknown key request manager exchange result) ∧
        (request.method = "registry" → ∃ text after, result = (manager, after) ∧
          after.answersTo key = [⟨.answer key, request.client, text⟩] ∧
          Rpc.ReadsReply request.id (.array (dispatcher.methodNames.map .string)) text)) ∧
    ∀ entrypoint ∈ builtin.registry.entrypoints, ∀ manager exchange raw request,
      raw.request? = some request →
        let key := exchange.channels.length
        let result := builtin.dispatchRequest raw manager exchange
        (Reaches entrypoint key request manager exchange result ↔
          request.method = entrypoint.method) ∧
        (request.method = entrypoint.method → result =
          manager.add (.request (.create key request entrypoint)) (exchange.welcome request)) := by
  intro registry dispatcher builtin
  have holds := Registry.holds_offerAll reserved offered
  refine ⟨holds, Text.increasing_of_lt dispatcher.methodNames_sorted, fun listed => ?_,
    fun client method named => ⟨_, _, bareFrame_accepted client named, rfl, rfl, rfl⟩,
    fun manager exchange raw request awaits accepted expected => ⟨?_, fun method => ?_⟩,
    fun entrypoint member manager exchange raw request accepted => ?_⟩
  · rcases mem_methodNames.mp listed with known | known
    · exact (holds.named "" known).1 rfl
    · revert known
      decide
  · rw [unknown_iff dispatcher awaits accepted expected, not_not]
  · rw [dispatchRequest_accepted accepted]
    exact dispatcher.route_registry method (awaits.untouched request)
      (exchange.welcome_requests request) expected (fits_of_accepted accepted)
  · intro key result
    have handled (method : request.method = entrypoint.method) :
        builtin.handler? request = some entrypoint :=
      handler?_builtin offered consumer member method
    have routed : result = builtin.route key request manager (exchange.welcome request) :=
      dispatchRequest_accepted accepted
    rw [routed, ← reaches_welcome]
    refine ⟨⟨fun reaches => ?_, fun method => reaches_route (handled method)⟩,
      fun method => route_handled (handled method)⟩
    obtain ⟨handler, found, same⟩ := reaches.handled
    exact (handler?_method found).symm.trans same

/-- An entrypoint that says nothing. -/
def mute (method : String) (hasPriority : Bool) : Entrypoint Unit :=
  { method, hasPriority, onRequest := fun _ _ => .done .success }

/-- While a call is held, a registry that takes a built-in name lists it once and does not know a
name that it reserves; one that reserves the built-in names has its entrypoints reached. -/
theorem registry_agrees_with_routing_taken :
    let offered := [mute "zeta" true, mute "hidden" false, mute "" false, mute "cancel" false,
      mute "zeta" false, mute "alpha" false]
    let dispatcher : Dispatcher Unit := ⟨(Registry.empty ["hidden"]).offerAll offered, none⟩
    let builtin : Dispatcher Unit := ⟨builtinRegistry.offerAll offered, none⟩
    let manager := Service.heldService.manager
    let exchange := Service.heldService.exchange
    dispatcher.methodNames = ["alpha", "cancel", "registry", "zeta"] ∧
      (∃ text after,
        dispatcher.dispatchRequest (bareFrame ⟨1⟩ "registry") manager exchange = (manager, after) ∧
          after.answersTo 1 = [⟨.answer 1, ⟨1⟩, text⟩] ∧
          Rpc.ReadsReply (.integer 0)
            (.array [.string "alpha", .string "cancel", .string "registry", .string "zeta"]) text) ∧
      Unknown 1 (bareCall ⟨1⟩ "hidden") manager exchange
        (dispatcher.dispatchRequest (bareFrame ⟨1⟩ "hidden") manager exchange) ∧
      ¬ Unknown 1 (bareCall ⟨1⟩ "cancel") manager exchange
        (dispatcher.dispatchRequest (bareFrame ⟨1⟩ "cancel") manager exchange) ∧
      mute "zeta" true ∈ builtin.registry.entrypoints ∧
      Reaches (mute "zeta" true) 1 (bareCall ⟨1⟩ "zeta") manager exchange
        (builtin.dispatchRequest (bareFrame ⟨1⟩ "zeta") manager exchange) := by
  intro offered dispatcher builtin manager exchange
  obtain ⟨-, -, -, -, routed, reached⟩ :=
    registry_agrees_with_routing ["hidden"] offered (none : Option (Consumer Unit))
  have alone : exchange.others = [] := List.isEmpty_iff.mp (by decide +kernel)
  have count : exchange.channels.length = 1 := by decide +kernel
  have awaits : AwaitsFrame manager exchange :=
    awaitsFrame_of_atFrame Service.heldService_reached (by simp [alone])
  have names : dispatcher.methodNames = ["alpha", "cancel", "registry", "zeta"] := by
    decide +kernel
  have accepted (method : String) (named : method ≠ "") := bareFrame_accepted ⟨1⟩ named
  have member : mute "zeta" true ∈ builtin.registry.entrypoints := by
    have known := (Registry.holds_offerAll builtinMethods offered).known "zeta"
    rw [if_neg (by decide)] at known
    exact List.mem_of_find?_eq_some known
  have replied := (routed manager exchange _ _ awaits (accepted "registry" (by decide)) rfl).2 rfl
  have hidden := (routed manager exchange _ _ awaits (accepted "hidden" (by decide)) rfl).1
  have cancelled := (routed manager exchange _ _ awaits (accepted "cancel" (by decide)) rfl).1
  have called := (reached _ member manager exchange _ _ (accepted "zeta" (by decide))).1
  simp only [count] at replied hidden cancelled called
  refine ⟨names, ?_, ?_, cancelled.mp ?_, member, called.mpr rfl⟩
  · obtain ⟨text, after, same, answer, reads⟩ := replied
    rw [names] at reads
    exact ⟨text, after, same, answer, reads⟩
  · refine not_not.mp fun known => absurd (hidden.mpr known) ?_
    rw [names]
    change "hidden" ∉ ["alpha", "cancel", "registry", "zeta"]
    decide
  · rw [names]
    change "cancel" ∈ ["alpha", "cancel", "registry", "zeta"]
    decide

end Dispatcher

end RpcDispatch
