import RpcDispatch.Proofs.Exchange.Silence

/-
This file says what can be seen of an exchange from outside, in the order in which it happened: the
answers and the texts for no request, the calls of hooks and the chunks.  It follows what a stretch
adds to that where scripts answer no other requests than some given ones.
-/

namespace RpcDispatch

variable {σ ρ : Type}

/-- What can be seen from outside.  Progress is no answer, and reports are not shown. -/
inductive Visible where
  | text (delivery : Delivery)
  | call (method : String) (hook : Hook)
  | chunk (client : ClientId) (bytes : Bytes)
  deriving DecidableEq

def Visible.text? : Visible → Option Delivery
  | .text delivery => some delivery
  | .call _ _ => none
  | .chunk _ _ => none

/-- A text can be seen, unless it is progress. -/
def Delivery.visible? (delivery : Delivery) : Option Visible :=
  match delivery.cause with
  | .progress _ => none
  | .answer _ => some (.text delivery)
  | .direct => some (.text delivery)

/-- What can be seen of an event, whether or not its text arrives. -/
def Event.visible? : Event → Option Visible
  | @Event.sent cause client text _ => Delivery.visible? ⟨cause, client, text⟩
  | .called method hook => some (.call method hook)
  | .chunk client bytes => some (.chunk client bytes)
  | .note _ => none
  | .logged _ _ => none

/-! ### Who answers -/

/-- An act answers no other requests than the given ones. -/
def Act.AnswersOnly (allowed : Key → Prop) : Act σ → Prop
  | .reply key _ => allowed key
  | .error key _ => allowed key
  | .progress .. | .close _ | .write _ | .note _ | .log _ | .switch _ => True

/-- A script answers no other requests than the given ones, whatever it reads. -/
def Script.AnswersOnly (allowed : Key → Prop) : Script σ ρ → Prop
  | .done _ => True
  | .act step next => step.AnswersOnly allowed ∧ next.AnswersOnly allowed
  | .read next => ∀ state, (next state).AnswersOnly allowed
  | .look _ next => ∀ channel, (next channel).AnswersOnly allowed

/-- An entrypoint answers a request only from the request hook that is called for it. -/
structure Entrypoint.AnswersOwn (entrypoint : Entrypoint σ) : Prop where
  onRequest : ∀ key request, (entrypoint.onRequest key request).AnswersOnly (· = key)
  onCancel : entrypoint.onCancel.AnswersOnly noKey
  onDisconnect : entrypoint.onDisconnect.AnswersOnly noKey
  onUpdate : entrypoint.onUpdate.AnswersOnly noKey

namespace Exchange

variable {allowed touched wider : Key → Prop} {before middle after exchange : Exchange σ}
  {shown more : List Visible} {key : Key}

/-- The other threads answer no request. -/
def OthersSilent (exchange : Exchange σ) : Prop :=
  ∀ acts ∈ exchange.others, ∀ act ∈ acts, act.AnswersOnly noKey

/-- All that could be seen, in order. -/
def visible (exchange : Exchange σ) : List Visible :=
  exchange.trace.filterMap Event.visible?

@[simp] theorem record_visible (exchange : Exchange σ) (event : Event) :
    (exchange.record event).visible = exchange.visible ++ event.visible?.toList := by
  cases seen : event.visible? <;> simp [record, visible, seen]

@[simp] theorem log_visible (exchange : Exchange σ) (notice : Log.Notice) :
    (exchange.log notice).visible = exchange.visible := by
  simp [log, Event.visible?]

@[simp] theorem attempt_visible (exchange : Exchange σ) (client : ClientId) (text : String)
    (cause : Cause) :
    (exchange.attempt client text cause).2.visible =
      exchange.visible ++ (Delivery.visible? ⟨cause, client, text⟩).toList :=
  exchange.record_visible (@Event.sent cause client text _)

@[simp] theorem send_visible (exchange : Exchange σ) (cause : Cause) (request : Request)
    (text : String) :
    (exchange.send cause request text).visible =
      exchange.visible ++ (Delivery.visible? ⟨cause, request.client, text⟩).toList := by
  rcases exchange.send_eq cause request text with same | ⟨fault, same⟩ <;> simp [same]

/-- The answers to a request can all be seen. -/
theorem answersTo_eq_visible (exchange : Exchange σ) (key : Key) :
    exchange.answersTo key =
      (exchange.visible.filterMap Visible.text?).filter (·.cause = .answer key) := by
  unfold answersTo deliveries visible
  induction exchange.trace with
  | nil => rfl
  | cons event events ih =>
      cases event with
      | @sent cause client text fault =>
          cases cause <;>
            simp [Event.delivery?, Event.visible?, Delivery.visible?, Visible.text?,
              List.filterMap_cons, List.filter_cons, ih]
      | called method hook =>
          simpa [Event.delivery?, Event.visible?, Visible.text?, List.filterMap_cons] using ih
      | chunk client bytes =>
          simpa [Event.delivery?, Event.visible?, Visible.text?, List.filterMap_cons] using ih
      | note value => simpa [Event.delivery?, Event.visible?, List.filterMap_cons] using ih
      | logged thread notice =>
          simpa [Event.delivery?, Event.visible?, List.filterMap_cons] using ih

/-! ### Stretches -/

/-- What can be seen of a stretch.  No other requests than the given ones are answered in it, and
what was closed stays so. -/
structure Shows (touched : Key → Prop) (before after : Exchange σ) (shown : List Visible) :
    Prop where
  visible : after.visible = before.visible ++ shown
  requests : before.requests <+: after.requests
  answered : ∀ key, ¬ touched key → after.isAnswered key = before.isAnswered key
  closed : ∀ key, before.isClosed key = true → after.isClosed key = true
  others : after.others <:+ before.others

/-- A stretch of which nothing can be seen. -/
abbrev Hides (before after : Exchange σ) : Prop :=
  Shows noKey before after []

/-- What can be seen of two stretches is what can be seen of each, in order. -/
theorem Shows.trans (first : Shows touched before middle shown)
    (second : Shows touched middle after more) : Shows touched before after (shown ++ more) where
  visible := by rw [second.visible, first.visible, List.append_assoc]
  requests := first.requests.trans second.requests
  answered key apart := (second.answered key apart).trans (first.answered key apart)
  closed key shut := second.closed key (first.closed key shut)
  others := second.others.trans first.others

/-- A request keeps its key. -/
theorem Shows.enrolled {request : Request} (shows : Shows touched before after shown)
    (found : before.requests[key]? = some request) : after.requests[key]? = some request := by
  obtain ⟨rest, longer⟩ := shows.requests
  rw [← longer, List.getElem?_append_left (List.getElem?_eq_some_iff.mp found).1]
  exact found

/-- More requests may be given than are answered. -/
theorem Shows.widen (widens : ∀ key, touched key → wider key)
    (shows : Shows touched before after shown) : Shows wider before after shown :=
  { shows with answered := fun key apart => shows.answered key (mt (widens key) apart) }

/-- Silent threads are silent after a stretch. -/
theorem Shows.silent (shows : Shows touched before after shown) (silent : before.OthersSilent) :
    after.OthersSilent :=
  fun acts taken => silent acts (shows.others.subset taken)

/-- What leaves the channels alone answers and closes nothing. -/
theorem shows_of_channels (channels : after.channels = before.channels)
    (others : after.others <:+ before.others)
    (visible : after.visible = before.visible ++ shown) : Shows touched before after shown where
  visible := visible
  requests := by simp only [Exchange.requests, channels, List.prefix_rfl]
  answered key _ := by simp only [isAnswered, channel?, channels]
  closed key shut := by rwa [isClosed, channel?, channels]
  others := others

/-- What changes one channel answers no other, and does not open it again. -/
theorem shows_of_modify {change : Channel → Channel}
    (channels : after.channels = before.channels.modify key change)
    (others : after.others <:+ before.others)
    (request : ∀ channel, (change channel).request = channel.request)
    (closed : ∀ channel, channel.closed = true → (change channel).closed = true)
    (answered : ¬ touched key → ∀ channel, (change channel).answered = channel.answered)
    (visible : after.visible = before.visible ++ shown) : Shows touched before after shown where
  visible := visible
  requests := (requests_modify channels request).symm ▸ List.prefix_rfl
  answered other apart := isAnswered_modify channels other fun here => answered (here ▸ apart)
  closed _ := isClosed_modify channels closed
  others := others

theorem Hides.refl (exchange : Exchange σ) : Hides exchange exchange :=
  shows_of_channels rfl List.suffix_rfl (List.append_nil _).symm

/-- A stretch of which nothing can be seen answers no request of any kind. -/
theorem Hides.widen (hides : Hides before after) : Shows touched before after [] :=
  Shows.widen (fun _ => False.elim) hides

/-- A stretch of which nothing can be seen may be added on either side. -/
theorem Shows.then (shows : Shows touched before middle shown) (hides : Hides middle after) :
    Shows touched before after shown := by
  simpa using shows.trans hides.widen

/-- A stretch of which nothing can be seen may come first. -/
theorem Shows.since (shows : Shows touched middle after shown) (hides : Hides before middle) :
    Shows touched before after shown :=
  hides.widen.trans shows

theorem Hides.log (hides : Hides before middle) (notice : Log.Notice) :
    Hides before (middle.log notice) :=
  hides.then (shows_of_channels rfl List.suffix_rfl (by simp))

/-- A call of a hook can be seen. -/
theorem shows_called (exchange : Exchange σ) (method : String) (hook : Hook) :
    Shows touched exchange (exchange.record (.called method hook)) [.call method hook] :=
  shows_of_channels rfl List.suffix_rfl (exchange.record_visible _)

/-- A consumed chunk can be seen. -/
theorem shows_chunk (exchange : Exchange σ) (client : ClientId) (bytes : Bytes) :
    Shows touched exchange (exchange.record (.chunk client bytes)) [.chunk client bytes] :=
  shows_of_channels rfl List.suffix_rfl (exchange.record_visible _)

/-- A text that is sent directly can be seen, whether it arrives or not. -/
theorem shows_attempt (exchange : Exchange σ) (client : ClientId) (text : String) :
    Shows touched exchange (exchange.attempt client text).2 [.text ⟨.direct, client, text⟩] :=
  shows_of_channels rfl List.suffix_rfl (exchange.attempt_visible client text .direct)

/-- Enrolling a request answers none. -/
theorem hides_enroll (exchange : Exchange σ) (request : Request) :
    Hides exchange (exchange.enroll request).2 := by
  constructor
  · exact (List.append_nil _).symm
  · rw [enroll_requests]
    exact List.prefix_append _ _
  · intro key _
    rw [isAnswered, isAnswered, enroll_channel?]
    split_ifs with new
    · simp [new, channel?, Channel.open]
    · rfl
  · intro key shut
    rw [isClosed] at shut ⊢
    rw [enroll_channel?]
    split_ifs with new
    · rw [new, channel?, List.getElem?_length] at shut
      cases shut
    · exact shut
  · exact List.suffix_rfl

/-! ### Acts and scripts -/

/-- All that can be seen of a stretch are answers to the given requests. -/
def Speaks (allowed : Key → Prop) (before after : Exchange σ) : Prop :=
  ∃ said : List Delivery, (∀ delivery ∈ said, ∃ key, allowed key ∧ delivery.cause = .answer key) ∧
    Shows allowed before after (said.map .text)

theorem Hides.speaks (hides : Hides before after) : Speaks allowed before after :=
  ⟨[], nofun, hides.widen⟩

/-- Where no request may be answered, nothing can be seen. -/
theorem Speaks.hides (speaks : Speaks noKey before after) : Hides before after := by
  obtain ⟨said, own, shows⟩ := speaks
  obtain rfl : said = [] := by
    apply List.eq_nil_iff_forall_not_mem.mpr
    intro delivery member
    obtain ⟨_, never, _⟩ := own delivery member
    exact never
  exact shows

/-- Two stretches that only answer the given requests make one that does. -/
theorem Speaks.trans (first : Speaks allowed before middle) (second : Speaks allowed middle after) :
    Speaks allowed before after := by
  obtain ⟨early, own, shows⟩ := first
  obtain ⟨late, others, rest⟩ := second
  refine ⟨early ++ late, ?_, ?_⟩
  · intro delivery member
    rcases List.mem_append.mp member with member | member
    · exact own delivery member
    · exact others delivery member
  · rw [List.map_append]
    exact shows.trans rest

/-- Silent threads are silent after answers. -/
theorem Speaks.silent (speaks : Speaks allowed before after) (silent : before.OthersSilent) :
    after.OthersSilent := by
  obtain ⟨_, _, shows⟩ := speaks
  exact shows.silent silent

/-- Marking a request as answered and sending the text shows the text. -/
theorem shows_answer (exchange : Exchange σ) (own : touched key) (request : Request)
    (text : String) :
    Shows touched exchange
      ((exchange.update key fun channel => { channel with answered := true }).send (.answer key)
        request text) [.text ⟨.answer key, request.client, text⟩] := by
  apply shows_of_modify (send_channels _ _ _ _)
  · rw [send_others]
    exact List.suffix_rfl
  · exact fun _ => rfl
  · exact fun _ => id
  · exact fun apart => absurd own apart
  · rw [send_visible]
    rfl

/-- An answer is an answer to its request. -/
theorem answer_speaks (exchange : Exchange σ) (own : allowed key) (encode : Rpc.Id → String) :
    Speaks allowed exchange (exchange.answer key encode) := by
  rcases exchange.answer_cases key encode with
    same | ⟨notice, same⟩ | ⟨channel, _, _, _, _, same⟩
  · rw [same]
    exact (Hides.refl exchange).speaks
  · rw [same]
    exact ((Hides.refl exchange).log notice).speaks
  · rw [same]
    refine ⟨[⟨.answer key, channel.request.client, encode channel.request.id⟩], ?_,
      exchange.shows_answer own _ _⟩
    intro delivery member
    rw [List.mem_singleton] at member
    exact ⟨key, own, by rw [member]⟩

/-- Nothing can be seen of the closing of a request. -/
theorem close_hides (exchange : Exchange σ) (key : Key) : Hides exchange (exchange.close key) :=
  shows_of_modify rfl List.suffix_rfl (fun _ => rfl) (fun _ _ => rfl) (fun _ _ => rfl)
    (List.append_nil _).symm

/-- All that can be seen of an act are answers that it gives. -/
theorem perform_speaks (exchange : Exchange σ) {act : Act σ} (only : act.AnswersOnly allowed) :
    Speaks allowed exchange (exchange.perform act) := by
  cases act with
  | reply key result =>
      have own : allowed key := only
      rw [perform, reply_eq]
      exact exchange.answer_speaks own _
  | error key error =>
      have own : allowed key := only
      rw [perform, Exchange.error]
      exact exchange.answer_speaks own _
  | progress key operation amount =>
      apply Hides.speaks
      rw [perform]
      rcases exchange.progress_cases key operation amount with
        same | ⟨channel, text, _, _, _, _, same⟩
      · rw [same]
        exact Hides.refl exchange
      · rw [same]
        apply shows_of_channels
        · exact exchange.send_channels _ _ _
        · simp
        · exact exchange.send_visible _ _ _
  | close key => exact (exchange.close_hides key).speaks
  | write state =>
      exact Hides.speaks (shows_of_channels rfl List.suffix_rfl (List.append_nil _).symm)
  | note value =>
      exact Hides.speaks (shows_of_channels rfl List.suffix_rfl (exchange.record_visible _))
  | log notice => exact ((Hides.refl exchange).log notice).speaks
  | switch thread =>
      exact Hides.speaks (shows_of_channels rfl List.suffix_rfl (List.append_nil _).symm)

/-- All that can be seen of the turn of the other threads are answers that they give. -/
theorem pause_speaks
    (only : ∀ acts ∈ exchange.others, ∀ act ∈ acts, act.AnswersOnly allowed) :
    Speaks allowed exchange exchange.pause := by
  unfold pause
  split
  · exact (Hides.refl exchange).speaks
  · next acts others taken =>
      have each := only acts (by simp [taken])
      have started : Speaks allowed exchange { exchange with others } :=
        Hides.speaks (shows_of_channels rfl ⟨[acts], by simp [taken]⟩ (List.append_nil _).symm)
      -- the acts of the turn follow one another from where it began
      generalize ({ exchange with others } : Exchange σ) = current at started
      clear taken
      induction acts generalizing current with
      | nil => exact started
      | cons act acts ih =>
          have acted := current.perform_speaks (each act (by simp))
          exact ih (fun later member => each later (by simp [member])) _ (started.trans acted)

/-- Nothing can be seen of the turn of silent threads. -/
theorem hides_pause (silent : exchange.OthersSilent) : Hides exchange exchange.pause :=
  (pause_speaks silent).hides

end Exchange

open Exchange (Shows Hides Speaks)

/-- All that can be seen of a script are answers that it gives. -/
theorem Script.run_speaks {allowed : Key → Prop} (script : Script σ ρ) (exchange : Exchange σ)
    (only : script.AnswersOnly allowed) (silent : exchange.OthersSilent) :
    Speaks allowed exchange (script.run exchange).2 := by
  induction script generalizing exchange with
  | done result => exact (Hides.refl exchange).speaks
  | act step next ih =>
      have turn := Exchange.hides_pause silent
      have acted := exchange.pause.perform_speaks only.1
      exact (turn.speaks.trans acted).trans (ih _ only.2 (acted.silent (turn.silent silent)))
  | read next ih =>
      have turn := Exchange.hides_pause silent
      exact turn.speaks.trans (ih _ _ (only _) (turn.silent silent))
  | look key next ih =>
      have turn := Exchange.hides_pause silent
      exact turn.speaks.trans (ih _ _ (only _) (turn.silent silent))

/-- Nothing can be seen of a script that answers nothing among silent threads. -/
theorem Script.run_hides (script : Script σ ρ) (exchange : Exchange σ)
    (only : script.AnswersOnly noKey) (silent : exchange.OthersSilent) :
    Hides exchange (script.run exchange).2 :=
  (script.run_speaks exchange only silent).hides

/-! ### What a request is told -/

/-- An answer to a request goes to its client and carries its identifier. -/
structure Delivery.IsAnswerTo (delivery : Delivery) (key : Key) (request : Request) : Prop where
  cause : delivery.cause = .answer key
  client : delivery.client = request.client
  carries : Rpc.IsAnswer request.id delivery.text

/-- What can be seen of the one answer that a request is given.  Nothing is sent for a notification,
and nothing for a request that has been closed. -/
inductive Exchange.Tells (after : Exchange σ) (key : Key) (request : Request)
    (encode : Rpc.Id → String) : List Visible → Prop where
  | answer (expected : request.isNotification = false) :
      Tells after key request encode [.text ⟨.answer key, request.client, encode request.id⟩]
  | notification (silent : request.isNotification = true) : Tells after key request encode []
  | closed (shut : after.isClosed key = true) : Tells after key request encode []

namespace Exchange

variable {touched : Key → Prop} {before after later exchange : Exchange σ} {key : Key}
  {request : Request} {encode : Rpc.Id → String} {shown : List Visible}

/-- What was told stays told. -/
theorem Tells.mono (tells : after.Tells key request encode shown)
    (closed : ∀ key, after.isClosed key = true → later.isClosed key = true) :
    later.Tells key request encode shown := by
  cases tells with
  | answer expected => exact .answer expected
  | notification silent => exact .notification silent
  | closed shut => exact .closed (closed key shut)

/-- Answering a request that has no answer yet tells it. -/
theorem answer_tells (exchange : Exchange σ) (enrolled : exchange.requests[key]? = some request)
    (unanswered : exchange.isAnswered key = false) (encode : Rpc.Id → String) :
    ∃ shown, (exchange.answer key encode).Tells key request encode shown ∧
      Shows (· = key) exchange (exchange.answer key encode) shown := by
  rw [requests_getElem?] at enrolled
  obtain ⟨channel, found, rfl⟩ := Option.map_eq_some_iff.mp enrolled
  have first : channel.answered = false := by simpa [isAnswered, found] using unanswered
  unfold answer
  rw [found]
  dsimp only
  split_ifs with notified closed answered
  · exact ⟨[], .notification notified, (Hides.refl exchange).widen⟩
  · have shut : exchange.isClosed key = true := by simpa [isClosed, found] using closed
    exact ⟨[], .closed shut, ((Hides.refl exchange).log _).widen⟩
  · rw [first] at answered
    cases answered
  · refine ⟨_, .answer (by simpa using notified), ?_⟩
    apply shows_answer
    rfl

/-- The same after a turn of silent threads. -/
theorem pause_tells (silent : exchange.OthersSilent)
    (enrolled : exchange.requests[key]? = some request)
    (unanswered : exchange.isAnswered key = false) (encode : Rpc.Id → String) :
    ∃ shown, (exchange.pause.answer key encode).Tells key request encode shown ∧
      Shows (· = key) exchange (exchange.pause.answer key encode) shown := by
  have turn := hides_pause silent
  obtain ⟨shown, told, shows⟩ := exchange.pause.answer_tells (turn.enrolled enrolled)
    ((turn.answered key id).trans unanswered) encode
  exact ⟨shown, told, shows.since turn⟩

/-- The answers that were seen since are all that a request was given, and it is given one. -/
theorem Accurate.said (accurate : after.Accurate) (enrolled : after.requests[key]? = some request)
    {seen : List Visible} {said : List Delivery} (visible : after.visible = seen ++ said.map .text)
    (own : ∀ delivery ∈ said, delivery.cause = .answer key) :
    said.length ≤ 1 ∧ ∀ delivery ∈ said, delivery.IsAnswerTo key request := by
  obtain ⟨once, carries, _⟩ := accurate.texts enrolled
  have texts : (said.map Visible.text).filterMap Visible.text? = said := by
    simp [List.filterMap_map, Function.comp_def, Visible.text?]
  have kept : said.filter (·.cause = .answer key) = said := by simpa using own
  have answers : said.Sublist (after.answersTo key) := by
    rw [answersTo_eq_visible, visible, List.filterMap_append, List.filter_append, texts, kept]
    exact List.sublist_append_right _ _
  constructor
  · exact Nat.le_trans answers.length_le once
  · intro delivery member
    obtain ⟨client, text⟩ := carries delivery (answers.subset member)
    exact ⟨own delivery member, client, text⟩

end Exchange

end RpcDispatch
