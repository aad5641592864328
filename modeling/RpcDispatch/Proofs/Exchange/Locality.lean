import RpcDispatch.Proofs.Exchange.Move

/-
This file says what of the exchange a single request can change: its own channel and the texts for
its own client.  A hook that is local does no more than that, and the same in every exchange.
-/

namespace RpcDispatch

variable {σ ρ : Type}

/-- An act that touches no request. -/
def Act.IsQuiet : Act σ → Prop
  | .reply .. | .error .. | .progress .. | .close _ => False
  | .write _ | .note _ | .log _ | .switch _ => True

/-- A script that touches no request, whatever it reads. -/
def Script.IsQuiet : Script σ ρ → Prop
  | .done _ => True
  | .act step next => step.IsQuiet ∧ next.IsQuiet
  | .read next => ∀ state, (next state).IsQuiet
  | .look _ next => ∀ channel, (next channel).IsQuiet

namespace Exchange

variable {closes : Key → Prop} {hooks : Hook → Prop} {before middle after : Exchange σ} {key : Key}

/-- The other threads touch no request. -/
def OthersQuiet (exchange : Exchange σ) : Prop :=
  ∀ acts ∈ exchange.others, ∀ act ∈ acts, act.IsQuiet

/-- Threads that are quiet are quiet in the turns that are left. -/
theorem OthersQuiet.of_suffix (quiet : before.OthersQuiet) (others : after.others <:+ before.others) :
    after.OthersQuiet :=
  fun acts taken => quiet acts (others.subset taken)

/-- The other threads only lose turns. -/
theorem Leads.others (leads : Leads closes hooks before after)
    (within : before.OthersCloseOnly closes) : after.others <:+ before.others := by
  have moves := leads within
  clear leads
  induction moves with
  | refl => exact List.suffix_rfl
  | tail _ move ih => exact move.others.trans ih

/-- The texts that were handed to the sender of a client, in order. -/
def textsTo (exchange : Exchange σ) (client : ClientId) : List String :=
  (exchange.deliveries.filter (·.client = client)).map Delivery.text

/-! ### Nothing for any request -/

/-- Nothing was done to a request, and nothing was sent. -/
structure Still (before after : Exchange σ) : Prop where
  channels : after.channels = before.channels
  deliveries : after.deliveries = before.deliveries
  others : after.others <:+ before.others

theorem Still.refl (exchange : Exchange σ) : Still exchange exchange :=
  ⟨rfl, rfl, List.suffix_rfl⟩

theorem Still.trans (first : Still before middle) (second : Still middle after) :
    Still before after :=
  ⟨second.channels.trans first.channels, second.deliveries.trans first.deliveries,
    second.others.trans first.others⟩

/-- A still stretch leaves the channel of every request. -/
theorem Still.channel? (still : Still before after) (key : Key) :
    after.channel? key = before.channel? key := by
  rw [Exchange.channel?, still.channels, Exchange.channel?]

/-- A still stretch sends nothing to any client. -/
theorem Still.textsTo (still : Still before after) (client : ClientId) :
    after.textsTo client = before.textsTo client := by
  rw [Exchange.textsTo, still.deliveries, Exchange.textsTo]

/-- Quiet threads are quiet after a still stretch. -/
theorem Still.quiet (still : Still before after) (quiet : before.OthersQuiet) :
    after.OthersQuiet :=
  quiet.of_suffix still.others

theorem Still.log (still : Still before middle) (notice : Log.Notice) :
    Still before (middle.log notice) :=
  still.trans ⟨rfl, middle.log_deliveries notice, List.suffix_rfl⟩

theorem Still.called (still : Still before middle) (method : String) (hook : Hook) :
    Still before (middle.record (.called method hook)) :=
  still.trans ⟨rfl, middle.record_called_deliveries method hook, List.suffix_rfl⟩

theorem Still.chunk (still : Still before middle) (client : ClientId) (bytes : Bytes) :
    Still before (middle.record (.chunk client bytes)) :=
  still.trans ⟨rfl, middle.record_chunk_deliveries client bytes, List.suffix_rfl⟩

/-- A quiet act sends nothing and changes no channel. -/
theorem perform_still (exchange : Exchange σ) {act : Act σ} (quiet : act.IsQuiet) :
    Still exchange (exchange.perform act) := by
  cases act with
  | reply key result => exact quiet.elim
  | error key error => exact quiet.elim
  | progress key operation amount => exact quiet.elim
  | close key => exact quiet.elim
  | write state => exact ⟨rfl, rfl, List.suffix_rfl⟩
  | note value =>
      exact ⟨rfl, by simp [perform, record, deliveries, Event.delivery?], List.suffix_rfl⟩
  | log notice => exact (Still.refl exchange).log notice
  | switch thread => exact ⟨rfl, rfl, List.suffix_rfl⟩

/-- A turn of quiet threads sends nothing and changes no channel. -/
theorem pause_still (exchange : Exchange σ) (quiet : exchange.OthersQuiet) :
    Still exchange exchange.pause := by
  unfold pause
  split
  · exact .refl exchange
  · next acts others taken =>
      have allowed := quiet acts (by simp [taken])
      have started : Still exchange { exchange with others } := ⟨rfl, rfl, ⟨[acts], by simp [taken]⟩⟩
      generalize ({ exchange with others } : Exchange σ) = current at started
      clear taken
      induction acts generalizing current with
      | nil => exact started
      | cons act acts ih =>
          have first := current.perform_still (allowed act (by simp))
          exact ih (fun later member => allowed later (by simp [member])) _ (started.trans first)

theorem Still.pause (still : Still before middle) (quiet : before.OthersQuiet) :
    Still before middle.pause :=
  still.trans (middle.pause_still (still.quiet quiet))

/-- A quiet script among quiet threads sends nothing and changes no channel. -/
theorem run_still (script : Script σ ρ) (exchange : Exchange σ) (quiet : exchange.OthersQuiet)
    (allowed : script.IsQuiet) : Still exchange (script.run exchange).2 := by
  induction script generalizing exchange with
  | done result => exact .refl exchange
  | act step next ih =>
      have first := (exchange.pause_still quiet).trans (exchange.pause.perform_still allowed.1)
      exact first.trans (ih _ (first.quiet quiet) allowed.2)
  | read next ih =>
      have first := exchange.pause_still quiet
      exact first.trans (ih _ _ (first.quiet quiet) (allowed _))
  | look key next ih =>
      have first := exchange.pause_still quiet
      exact first.trans (ih _ _ (first.quiet quiet) (allowed _))

/-! ### Something for one request -/

/-- The channel of one request changed, and the texts were sent to its client. -/
structure Turn (key : Key) (channel : Channel) (texts : List String) (before after : Exchange σ) :
    Prop where
  channels : after.channels = before.channels.set key channel
  texts : ∀ client, after.textsTo client =
    before.textsTo client ++ if channel.request.client = client then texts else []
  others : after.others <:+ before.others

variable {channel changed : Channel} {texts more : List String}

/-- A still stretch is a turn of any request, without a text and with the channel as it was. -/
theorem Still.turn (still : Still before after) (found : before.channel? key = some channel) :
    Turn key channel [] before after := by
  refine ⟨?_, fun client => ?_, still.others⟩
  · obtain ⟨enrolled, same⟩ := List.getElem?_eq_some_iff.mp found
    rw [still.channels, ← same, List.set_getElem_self]
  · rw [still.textsTo, ite_self, List.append_nil]

/-- What is done to one request, one thing after another. -/
theorem Turn.trans (first : Turn key channel texts before middle)
    (second : Turn key changed more middle after)
    (same : changed.request = channel.request) : Turn key changed (texts ++ more) before after := by
  refine ⟨?_, fun client => ?_, second.others.trans first.others⟩
  · rw [second.channels, first.channels, List.set_set]
  · rw [second.texts, first.texts, same, List.append_assoc]
    split_ifs <;> rfl

/-- A turn may be followed by a still stretch. -/
theorem Turn.then (turn : Turn key channel texts before middle) (still : Still middle after) :
    Turn key channel texts before after :=
  ⟨still.channels.trans turn.channels, fun client => (still.textsTo client).trans (turn.texts client),
    still.others.trans turn.others⟩

/-- A turn may follow a still stretch. -/
theorem Turn.since (turn : Turn key channel texts middle after) (still : Still before middle) :
    Turn key channel texts before after := by
  refine ⟨?_, fun client => ?_, turn.others.trans still.others⟩
  · rw [turn.channels, still.channels]
  · rw [turn.texts, still.textsTo]

/-- Quiet threads are quiet after a turn. -/
theorem Turn.quiet (turn : Turn key channel texts before after) (quiet : before.OthersQuiet) :
    after.OthersQuiet :=
  quiet.of_suffix turn.others

/-- The request of a turn has the channel that the turn leaves. -/
theorem Turn.own (turn : Turn key channel texts before after)
    (enrolled : key < before.channels.length) : after.channel? key = some channel := by
  rw [Exchange.channel?, turn.channels, List.getElem?_set_self enrolled]

/-- Every other request keeps its channel. -/
theorem Turn.other (turn : Turn key channel texts before after) {other : Key} (apart : other ≠ key) :
    after.channel? other = before.channel? other := by
  rw [Exchange.channel?, turn.channels, List.getElem?_set_ne apart.symm, Exchange.channel?]

end Exchange

/-- What an answer does to a channel, and the text that it sends. -/
def Channel.answer (channel : Channel) (encode : Rpc.Id → String) : Channel × List String :=
  if channel.request.isNotification || channel.closed || channel.answered then (channel, [])
  else ({ channel with answered := true }, [encode channel.request.id])

/-- Answering keeps the request of a channel. -/
theorem Channel.answer_request (channel : Channel) (encode : Rpc.Id → String) :
    (channel.answer encode).1.request = channel.request := by
  unfold Channel.answer
  split_ifs <;> rfl

namespace Exchange

variable {before after : Exchange σ} {key : Key} {channel : Channel}

/-- A change of one channel that exists replaces that channel. -/
theorem update_channels (exchange : Exchange σ) (found : exchange.channel? key = some channel)
    (change : Channel → Channel) :
    (exchange.update key change).channels = exchange.channels.set key (change channel) := by
  obtain ⟨enrolled, same⟩ := List.getElem?_eq_some_iff.mp found
  rw [update, List.modify_eq_set_get _ enrolled, List.get_eq_getElem, same]

/-- An answer changes one channel, and its text is sent to the client of that channel. -/
theorem answer_parts (exchange : Exchange σ) (encode : Rpc.Id → String)
    (found : exchange.channel? key = some channel) :
    (exchange.answer key encode).channels =
        exchange.channels.set key (channel.answer encode).1 ∧
      (exchange.answer key encode).deliveries = exchange.deliveries ++
        (channel.answer encode).2.map (⟨.answer key, channel.request.client, ·⟩) := by
  have same : exchange.channels.set key channel = exchange.channels := by
    obtain ⟨enrolled, same⟩ := List.getElem?_eq_some_iff.mp found
    rw [← same, List.set_getElem_self]
  unfold Exchange.answer Channel.answer
  rw [found]
  dsimp only
  cases notified : channel.request.isNotification with
  | true => simp [same]
  | false =>
    cases closed : channel.closed with
    | true => simp [same]
    | false =>
      cases answered : channel.answered with
      | true => simp [same]
      | false =>
        have sent : (exchange.update key fun channel =>
            { channel with answered := true }).deliveries = exchange.deliveries := rfl
        simp [sent, update_channels exchange found, closed]

/-- An answer is a turn of its request: it sends what the channel says and marks the channel. -/
theorem answer_turn (exchange : Exchange σ) (encode : Rpc.Id → String)
    (found : exchange.channel? key = some channel) :
    Turn key (channel.answer encode).1 (channel.answer encode).2 exchange
      (exchange.answer key encode) := by
  obtain ⟨channels, deliveries⟩ := exchange.answer_parts encode found
  refine ⟨channels, fun client => ?_, ?_⟩
  · rw [textsTo, deliveries, Channel.answer_request, List.filter_append, List.map_append,
      List.filter_map]
    split_ifs with own <;> simp [own, textsTo, Function.comp_def]
  · exact (exchange.answer_calls_others key encode).2 ▸ List.suffix_rfl

/-- An error is a turn of its request. -/
theorem error_turn (exchange : Exchange σ) (error : Rpc.Error)
    (found : exchange.channel? key = some channel) :
    Turn key (channel.answer fun id => Rpc.errorText id error).1
      (channel.answer fun id => Rpc.errorText id error).2 exchange (exchange.error key error) :=
  exchange.answer_turn _ found

/-- Closing a request is a turn that sends nothing. -/
theorem close_turn (exchange : Exchange σ) (found : exchange.channel? key = some channel) :
    Turn key { channel with closed := true } [] exchange (exchange.close key) :=
  ⟨exchange.update_channels found _, fun client => by simp [textsTo, close, update, deliveries],
    List.suffix_rfl⟩

end Exchange

/-! ### Local entrypoints -/

/-- What a request hook does to its request, and how it ends. -/
structure Deed where
  texts : List String
  answered : Bool
  closed : Bool
  outcome : Outcome

namespace Entrypoint

/-- Whenever the request hook is called for a request that nothing has happened to, it does the
deed, and touches no other request. -/
def Does (entrypoint : Entrypoint σ) (deed : Request → Deed) : Prop :=
  ∀ (key : Key) (request : Request) (exchange : Exchange σ), exchange.OthersQuiet →
    exchange.channel? key = some (.open request) →
      let ran := (entrypoint.onRequest key request).run exchange
      ran.1 = (deed request).outcome ∧
        ran.2.channels =
          exchange.channels.set key ⟨request, (deed request).answered, (deed request).closed⟩ ∧
        ∀ client, ran.2.textsTo client =
          exchange.textsTo client ++ if request.client = client then (deed request).texts else []

/-- An entrypoint is local when its request hook does a deed that depends on the request alone, and
its other hooks touch no request. -/
structure IsLocal (entrypoint : Entrypoint σ) (deed : Request → Deed) : Prop where
  onRequest : entrypoint.Does deed
  onCancel : entrypoint.onCancel.IsQuiet
  onDisconnect : entrypoint.onDisconnect.IsQuiet
  onUpdate : entrypoint.onUpdate.IsQuiet

end Entrypoint

namespace Exchange

/-- A request hook that is called takes its turn. -/
theorem callRequest_turn {entrypoint : Entrypoint σ} {deed : Request → Deed}
    (does : entrypoint.Does deed) {exchange : Exchange σ} (quiet : exchange.OthersQuiet) {key : Key}
    {request : Request} (found : exchange.channel? key = some (.open request)) :
    (exchange.callRequest entrypoint key request).1 = (deed request).outcome ∧
      Turn key ⟨request, (deed request).answered, (deed request).closed⟩ (deed request).texts
        exchange (exchange.callRequest entrypoint key request).2 := by
  have called := (Still.refl exchange).called entrypoint.method (.request key)
  obtain ⟨outcome, channels, texts⟩ :=
    does key request _ (called.quiet quiet) ((called.channel? key).trans found)
  have leads : Leads anyKey anyHook _ _ :=
    (entrypoint.onRequest key request).run_leads
      (exchange.record (.called entrypoint.method (.request key))) (Script.closesOnly_anyKey _)
  have turn : Turn key ⟨request, (deed request).answered, (deed request).closed⟩
      (deed request).texts _ (exchange.callRequest entrypoint key request).2 :=
    ⟨channels, texts, leads.others (othersCloseOnly_anyKey _)⟩
  exact ⟨outcome, turn.since called⟩

end Exchange

end RpcDispatch
