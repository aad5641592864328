import RpcDispatch.Proofs.Exchange.Silence

/-
This file says when a request is left alone.  A request can only be answered or closed by who was
given it, and the state of the application may hold requests for later; so a script leaves a request
alone if it does so whenever the state that it reads does not hold the request.
-/

namespace RpcDispatch

variable {σ ρ : Type}

/-- An act that leaves a request alone.  A state that it writes is valid. -/
def Act.Spares (valid : σ → Prop) (key : Key) : Act σ → Prop
  | .reply other _ => other ≠ key
  | .error other _ => other ≠ key
  | .progress other _ _ => other ≠ key
  | .close other => other ≠ key
  | .write state => valid state
  | .note _ => True
  | .log _ => True
  | .switch _ => True

/-- A script that leaves a request alone, whatever valid state it reads. -/
def Script.Spares (valid : σ → Prop) (key : Key) : Script σ ρ → Prop
  | .done _ => True
  | .act step next => step.Spares valid key ∧ next.Spares valid key
  | .read next => ∀ state, valid state → (next state).Spares valid key
  | .look _ next => ∀ channel, (next channel).Spares valid key

/-- An entrypoint that leaves a request alone, unless it is called for it. -/
structure Entrypoint.Spares (valid : σ → Prop) (key : Key) (entrypoint : Entrypoint σ) : Prop where
  onRequest : ∀ other request, other ≠ key →
    (entrypoint.onRequest other request).Spares valid key
  onCancel : entrypoint.onCancel.Spares valid key
  onDisconnect : entrypoint.onDisconnect.Spares valid key

namespace Exchange

variable {valid : σ → Prop} {key : Key} {before middle after exchange : Exchange σ}

/-- A request that nobody has acted on, and that nobody finds in the state. -/
structure Untouched (valid : σ → Prop) (key : Key) (exchange : Exchange σ) : Prop where
  state : valid exchange.state
  others : ∀ acts ∈ exchange.others, ∀ act ∈ acts, act.Spares valid key
  opened : exchange.isClosed key = false
  unanswered : exchange.isAnswered key = false
  silent : exchange.answersTo key = []

/-- What leaves the state, the channel of the request and its answers leaves it untouched. -/
theorem Untouched.keep (untouched : before.Untouched valid key) (state : valid after.state)
    (others : after.others <:+ before.others)
    (channel : after.channel? key = before.channel? key)
    (answers : after.answersTo key = before.answersTo key) : after.Untouched valid key where
  state := state
  others acts taken := untouched.others acts (others.subset taken)
  opened := by
    rw [isClosed, channel]
    exact untouched.opened
  unanswered := by
    rw [isAnswered, channel]
    exact untouched.unanswered
  silent := answers.trans untouched.silent

/-- An event that delivers nothing leaves a request untouched. -/
theorem Untouched.record (untouched : exchange.Untouched valid key) {event : Event}
    (silent : event.delivery? = none) : (exchange.record event).Untouched valid key := by
  have answers : (exchange.record event).answersTo key = exchange.answersTo key := by
    simp [answersTo, deliveries, Exchange.record, silent]
  exact untouched.keep untouched.state List.suffix_rfl rfl answers

theorem Untouched.log (untouched : exchange.Untouched valid key) (notice : Log.Notice) :
    (exchange.log notice).Untouched valid key :=
  untouched.record rfl

/-- A new request is another one. -/
theorem Untouched.enroll (untouched : exchange.Untouched valid key) (request : Request) :
    (exchange.enroll request).2.Untouched valid key := by
  constructor
  · exact untouched.state
  · exact untouched.others
  · have opened := untouched.opened
    rw [isClosed] at opened ⊢
    rw [enroll_channel?]
    split_ifs
    · rfl
    · exact opened
  · have unanswered := untouched.unanswered
    rw [isAnswered] at unanswered ⊢
    rw [enroll_channel?]
    split_ifs
    · rfl
    · exact unanswered
  · exact untouched.silent

/-! ### Acting on another request -/

/-- Sending does not touch the state of the application. -/
theorem send_state (exchange : Exchange σ) (cause : Cause) (request : Request) (text : String) :
    (exchange.send cause request text).state = exchange.state := by
  rcases exchange.send_eq cause request text with same | ⟨fault, same⟩
  · rw [same]
    rfl
  · rw [same]
    rfl

/-- A change of one channel leaves the others. -/
theorem channel?_modify {target : Key} {change : Channel → Channel}
    (channels : after.channels = before.channels.modify target change) (other : target ≠ key) :
    after.channel? key = before.channel? key := by
  rw [channel?, channels, List.getElem?_modify]
  simp [other, channel?]

/-- A text with another cause is no answer to the request. -/
theorem answersTo_append {cause : Cause} {client : ClientId} {text : String}
    (deliveries : after.deliveries = before.deliveries ++ [⟨cause, client, text⟩])
    (other : cause ≠ .answer key) : after.answersTo key = before.answersTo key := by
  rw [answersTo, deliveries, List.filter_append]
  simp [answersTo, other]

/-- Answering another request leaves the request untouched. -/
theorem Untouched.answer (untouched : exchange.Untouched valid key) {other : Key}
    (apart : other ≠ key) (encode : Rpc.Id → String) :
    (exchange.answer other encode).Untouched valid key := by
  rcases exchange.answer_cases other encode with
    same | ⟨notice, same⟩ | ⟨channel, _, _, _, _, same⟩
  · rw [same]
    exact untouched
  · rw [same]
    exact untouched.log notice
  · rw [same]
    apply untouched.keep
    · rw [send_state]
      exact untouched.state
    · rw [send_others]
      exact List.suffix_rfl
    · exact channel?_modify (send_channels _ _ _ _) apart
    · apply answersTo_append (send_deliveries _ _ _ _)
      simpa using apart

/-- An error for another request leaves this one untouched. -/
theorem Untouched.error (untouched : exchange.Untouched valid key) {other : Key}
    (apart : other ≠ key) (error : Rpc.Error) :
    (exchange.error other error).Untouched valid key := by
  rw [Exchange.error]
  exact untouched.answer apart _

/-- Closing another request leaves this one untouched. -/
theorem Untouched.close (untouched : exchange.Untouched valid key) {other : Key}
    (apart : other ≠ key) : (exchange.close other).Untouched valid key := by
  have channel : (exchange.close other).channel? key = exchange.channel? key :=
    channel?_modify rfl apart
  exact untouched.keep untouched.state List.suffix_rfl channel rfl

/-- An act that spares the request leaves it untouched. -/
theorem Untouched.perform (untouched : exchange.Untouched valid key) {act : Act σ}
    (spares : act.Spares valid key) : (exchange.perform act).Untouched valid key := by
  cases act with
  | reply other result =>
      obtain ⟨encode, _, same⟩ := exchange.reply_eq_answer other result
      rw [Exchange.perform, same]
      exact untouched.answer spares encode
  | error other error => exact untouched.error spares error
  | progress other operation amount =>
      rw [Exchange.perform]
      rcases exchange.progress_cases other operation amount with
        same | ⟨channel, text, _, _, _, _, same⟩
      · rw [same]
        exact untouched
      · rw [same]
        apply untouched.keep
        · rw [send_state]
          exact untouched.state
        · simp
        · exact congrArg (fun channels => channels[key]?) (send_channels _ _ _ _)
        · exact answersTo_append (send_deliveries _ _ _ _) (by simp)
  | close other => exact untouched.close spares
  | write state => exact untouched.keep spares List.suffix_rfl rfl rfl
  | note value => exact untouched.record rfl
  | log notice => exact untouched.log notice
  | switch thread => exact untouched.keep untouched.state List.suffix_rfl rfl rfl

/-- The other threads spare the request in their turn. -/
theorem Untouched.pause (untouched : exchange.Untouched valid key) :
    exchange.pause.Untouched valid key := by
  unfold Exchange.pause
  split
  · exact untouched
  · next acts others taken =>
      have spare := untouched.others acts (by simp [taken])
      have started : Untouched valid key { exchange with others } :=
        untouched.keep untouched.state ⟨[acts], by simp [taken]⟩ rfl rfl
      -- the acts of the turn follow one another from where it began
      generalize ({ exchange with others } : Exchange σ) = current at started
      clear taken
      induction acts generalizing current with
      | nil => exact started
      | cons act acts ih =>
          exact ih (fun later member => spare later (by simp [member])) _
            (started.perform (spare act (by simp)))

/-- A script that spares the request leaves it untouched. -/
theorem Untouched.run (untouched : exchange.Untouched valid key) {script : Script σ ρ}
    (spares : script.Spares valid key) : (script.run exchange).2.Untouched valid key := by
  induction script generalizing exchange with
  | done result => exact untouched
  | act step next ih => exact ih (untouched.pause.perform spares.1) spares.2
  | read next ih => exact ih _ untouched.pause (spares _ untouched.pause.state)
  | look key next ih => exact ih _ untouched.pause (spares _)

/-! ### The answer -/

/-- The first answer to an untouched request is its only one. -/
theorem Untouched.answer_own (untouched : exchange.Untouched valid key) {request : Request}
    (enrolled : exchange.requests[key]? = some request)
    (expected : request.isNotification = false) (encode : Rpc.Id → String) :
    (exchange.answer key encode).isAnswered key = true ∧
      (exchange.answer key encode).answersTo key =
        [⟨.answer key, request.client, encode request.id⟩] := by
  rw [requests_getElem?] at enrolled
  obtain ⟨channel, found, rfl⟩ := Option.map_eq_some_iff.mp enrolled
  have opened : channel.closed = false := by
    simpa [isClosed, found] using untouched.opened
  have first : channel.answered = false := by
    simpa [isAnswered, found] using untouched.unanswered
  refine ⟨exchange.answer_isAnswered key encode channel found expected opened, ?_⟩
  have sent := exchange.answer_deliveries key encode channel found expected opened first
  have silent := untouched.silent
  rw [Exchange.answersTo] at silent ⊢
  rw [sent, List.filter_append, silent]
  simp

/-- So it is after a turn of the other threads. -/
theorem Untouched.answer_paused (untouched : exchange.Untouched valid key) {request : Request}
    (enrolled : exchange.requests[key]? = some request)
    (expected : request.isNotification = false) (encode : Rpc.Id → String) :
    (exchange.pause.answer key encode).isAnswered key = true ∧
      (exchange.pause.answer key encode).answersTo key =
        [⟨.answer key, request.client, encode request.id⟩] := by
  have turn : Leads anyKey noHook exchange exchange.pause := exchange.pause_leads
  have found : exchange.pause.requests[key]? = some request := by
    rw [turn.requests exchange.othersCloseOnly_anyKey]
    exact enrolled
  exact untouched.pause.answer_own found expected encode

/-- The one answer of a request remains the only one. -/
theorem Grows.answersTo {closes : Key → Prop} (grows : Grows closes before after)
    (within : before.OthersCloseOnly closes) (answered : before.isAnswered key = true) :
    after.answersTo key = before.answersTo key := by
  refine (@Grows.keeps σ closes before after grows within
    (fun exchange => exchange.isAnswered key = true ∧
      exchange.answersTo key = before.answersTo key)
    (fun earlier later move kept => ?_) (fun earlier request kept => ?_) ⟨answered, rfl⟩).2
  · refine ⟨move.answered kept.1, Eq.trans ?_ kept.2⟩
    rcases move.effect with ⟨act, effect⟩ | ⟨client, text, _, deliveries⟩
    · cases effect with
      | silent _ deliveries => rw [Exchange.answersTo, deliveries, Exchange.answersTo]
      | answer target channel text found _ _ first _ _ deliveries =>
          apply answersTo_append deliveries
          intro same
          cases same
          simp [isAnswered, found, first] at kept
      | progress target channel text _ _ _ _ _ deliveries =>
          exact answersTo_append deliveries (by simp)
      | close target _ _ deliveries => rw [Exchange.answersTo, deliveries, Exchange.answersTo]
    · exact answersTo_append deliveries (by simp)
  · refine ⟨?_, kept.2⟩
    have grows : Grows anyKey earlier (earlier.enroll request).2 := earlier.enroll_grows request
    exact grows.answered earlier.othersCloseOnly_anyKey kept.1

end Exchange

end RpcDispatch
