import RpcDispatch.Proofs.Exchange.Answers

/-
This file shows that a closed request is silent.  The record of an exchange only grows, and once a
request is closed nothing that is added to it is a text for this request.
-/

namespace RpcDispatch

/-- The texts that some events hand over for a request. -/
def textsIn (key : Key) (events : List Event) : List Delivery :=
  (events.filterMap Event.delivery?).filter fun delivery =>
    delivery.cause = .answer key ∨ delivery.cause = .progress key

@[simp] theorem textsIn_append (key : Key) (first second : List Event) :
    textsIn key (first ++ second) = textsIn key first ++ textsIn key second := by
  simp [textsIn]

namespace Exchange

variable {σ : Type} {closes : Key → Prop} {hooks : Hook → Prop} {before middle after : Exchange σ}
  {key : Key}

theorem textsFor_eq_textsIn (exchange : Exchange σ) (key : Key) :
    exchange.textsFor key = textsIn key exchange.trace := rfl

/-! ### The record -/

/-- Sending for a request only adds to the record. -/
theorem send_trace (exchange : Exchange σ) (cause : Cause) (request : Request) (text : String) :
    exchange.trace <+: (exchange.send cause request text).trace := by
  have reported : exchange.trace <+:
      (exchange.log (.sending request.client request.id text.utf8ByteSize)).trace :=
    List.prefix_append _ _
  rcases exchange.send_eq cause request text with same | ⟨fault, same⟩
  · rw [same]
    exact reported.trans (List.prefix_append _ _)
  · rw [same]
    exact (reported.trans (List.prefix_append _ _)).trans (List.prefix_append _ _)

/-- An answer only adds to the record. -/
theorem answer_trace (exchange : Exchange σ) (key : Key) (encode : Rpc.Id → String) :
    exchange.trace <+: (exchange.answer key encode).trace := by
  rcases exchange.answer_cases key encode with
    same | ⟨notice, same⟩ | ⟨channel, _, _, _, _, same⟩
  · exact same.symm ▸ List.prefix_rfl
  · rw [same]
    exact List.prefix_append _ _
  · rw [same]
    exact send_trace (exchange.update key fun channel => { channel with answered := true })
      (.answer key) channel.request _

/-- No act takes anything from the record. -/
theorem perform_trace (exchange : Exchange σ) (act : Act σ) :
    exchange.trace <+: (exchange.perform act).trace := by
  cases act with
  | reply key result =>
      obtain ⟨encode, _, same⟩ := exchange.reply_eq_answer key result
      rw [perform, same]
      exact exchange.answer_trace key encode
  | error key error =>
      rw [perform, Exchange.error]
      exact exchange.answer_trace key _
  | progress key operation amount =>
      rw [perform]
      rcases exchange.progress_cases key operation amount with
        same | ⟨channel, text, _, _, _, _, same⟩
      · exact same.symm ▸ List.prefix_rfl
      · rw [same]
        exact exchange.send_trace (.progress key) channel.request text
  | note value => exact List.prefix_append _ _
  | log notice => exact List.prefix_append _ _
  | close key => exact List.prefix_rfl
  | write state => exact List.prefix_rfl
  | switch thread => exact List.prefix_rfl

/-- A move only adds to the record. -/
theorem Move.trace (move : Move closes hooks before after) : before.trace <+: after.trace := by
  cases move with
  | perform act allowed => exact before.perform_trace act
  | log notice => exact List.prefix_append _ _
  | call method hook allowed => exact List.prefix_append _ _
  | chunk client bytes => exact List.prefix_append _ _
  | attempt client text => exact List.prefix_append _ _
  | turn acts others next => exact List.prefix_rfl

/-- The record of a growing exchange only grows. -/
theorem Grows.trace (grows : Grows closes before after)
    (within : before.OthersCloseOnly closes) : before.trace <+: after.trace := by
  refine @Grows.keeps σ closes before after grows within
    (fun exchange => before.trace <+: exchange.trace) (fun _ _ move kept => ?_)
    (fun _ _ kept => kept) List.prefix_rfl
  exact kept.trans move.trace

/-! ### Closed requests -/

/-- A change of one channel that keeps it closed keeps every closed request closed. -/
theorem isClosed_modify {target : Key} {change : Channel → Channel}
    (channels : after.channels = before.channels.modify target change)
    (same : ∀ channel, channel.closed = true → (change channel).closed = true)
    (closed : before.isClosed key = true) : after.isClosed key = true := by
  simp only [isClosed, channel?, channels, List.getElem?_modify] at closed ⊢
  cases found : before.channels[key]? with
  | none => simp [found] at closed
  | some channel =>
      simp only [found, Option.any_some] at closed
      by_cases hit : target = key
      · simp [hit, same channel closed]
      · simp [hit, closed]

/-- An answer or progress is not for a closed request. -/
theorem textsFor_other {cause : Cause} {target : Key} {client : ClientId} {text : String}
    {channel : Channel} (found : before.channel? target = some channel)
    (opened : channel.closed = false) (closed : before.isClosed key = true)
    (cause_eq : cause = .answer target ∨ cause = .progress target)
    (deliveries : after.deliveries = before.deliveries ++ [⟨cause, client, text⟩]) :
    after.textsFor key = before.textsFor key := by
  have other : target ≠ key := by
    rintro rfl
    simp [isClosed, found, opened] at closed
  rw [textsFor, deliveries, List.filter_append]
  rcases cause_eq with rfl | rfl <;> simp [textsFor, other]

/-- A closed request stays closed, and no text is sent for it. -/
theorem Move.silent (move : Move closes hooks before after) (closed : before.isClosed key = true) :
    after.isClosed key = true ∧ after.textsFor key = before.textsFor key := by
  rcases move.effect with ⟨act, effect⟩ | ⟨client, text, channels, deliveries⟩
  · cases effect with
    | silent channels deliveries =>
        refine ⟨?_, by rw [textsFor, deliveries, textsFor]⟩
        rw [isClosed, channel?, channels]
        exact closed
    | answer target channel text found _ opened _ _ channels deliveries =>
        exact ⟨isClosed_modify channels (fun _ kept => kept) closed,
          textsFor_other found opened closed (.inl rfl) deliveries⟩
    | progress target channel text found _ opened _ channels deliveries =>
        refine ⟨?_, textsFor_other found opened closed (.inr rfl) deliveries⟩
        rw [isClosed, channel?, channels]
        exact closed
    | close target _ channels deliveries =>
        exact ⟨isClosed_modify channels (fun _ _ => rfl) closed, by
          rw [textsFor, deliveries, textsFor]⟩
  · refine ⟨?_, ?_⟩
    · rw [isClosed, channel?, channels]
      exact closed
    · rw [textsFor, deliveries, List.filter_append]
      simp [textsFor]

/-- A closed request stays closed, and nothing more is sent for it. -/
theorem Grows.silent (grows : Grows closes before after)
    (within : before.OthersCloseOnly closes) (closed : before.isClosed key = true) :
    after.isClosed key = true ∧ after.textsFor key = before.textsFor key := by
  refine @Grows.keeps σ closes before after grows within
    (fun exchange => exchange.isClosed key = true ∧ exchange.textsFor key = before.textsFor key)
    (fun _ _ move kept => ?_) (fun earlier request kept => ?_) ⟨closed, rfl⟩
  · obtain ⟨still, same⟩ := move.silent kept.1
    exact ⟨still, same.trans kept.2⟩
  · refine ⟨?_, kept.2⟩
    have still := kept.1
    unfold isClosed at still ⊢
    rw [enroll_channel?]
    split_ifs with new
    · rw [new, channel?, List.getElem?_length] at still
      cases still
    · exact still

/-! ### After the hook -/

/-- The disconnect hook of the request was called, and no text was sent for the request since: not
even by the hook. -/
structure Hushed (exchange : Exchange σ) (key : Key) : Prop where
  closed : exchange.isClosed key = true
  silent : ∃ past method future,
    exchange.trace = past ++ .called method (.disconnect key) :: future ∧ textsIn key future = []

/-- A request stays hushed while the exchange grows. -/
theorem Hushed.grows (hushed : before.Hushed key) (grows : Grows closes before after)
    (within : before.OthersCloseOnly closes) : after.Hushed key := by
  obtain ⟨closed, same⟩ := grows.silent within hushed.closed
  obtain ⟨past, method, future, trace, silent⟩ := hushed.silent
  obtain ⟨added, longer⟩ := grows.trace within
  refine ⟨closed, past, method, future ++ added, ?_, ?_⟩
  · rw [← longer, trace, List.append_assoc, List.cons_append]
  · rw [textsFor_eq_textsIn, textsFor_eq_textsIn, ← longer, textsIn_append,
      List.append_right_eq_self] at same
    rw [textsIn_append, silent, same]
    rfl

/-- A closed request is hushed from the call of its disconnect hook on. -/
theorem hushed_called (closed : before.isClosed key = true) (method : String) :
    (before.record (.called method (.disconnect key))).Hushed key :=
  ⟨closed, before.trace, method, [], rfl, rfl⟩

/-- Every request whose disconnect hook was called is hushed. -/
def Hushes (exchange : Exchange σ) : Prop :=
  ∀ key, .disconnect key ∈ exchange.calls → exchange.Hushed key

/-- What calls no disconnect hook keeps this. -/
theorem Hushes.grows (hushes : before.Hushes) (grows : Grows closes before after)
    (within : before.OthersCloseOnly closes)
    (uncalled : ∀ key, .disconnect key ∈ after.calls → .disconnect key ∈ before.calls) :
    after.Hushes :=
  fun key called => (hushes key (uncalled key called)).grows grows within

/-- A stretch that calls no disconnection hook keeps the clients hushed. -/
theorem Hushes.leads (hushes : before.Hushes) (leads : Leads anyKey hooks before after)
    (calm : ∀ key, ¬ hooks (.disconnect key)) : after.Hushes :=
  hushes.grows leads.grows before.othersCloseOnly_anyKey fun key =>
    (leads.mem_calls_iff before.othersCloseOnly_anyKey (calm key)).mp

end Exchange

end RpcDispatch
