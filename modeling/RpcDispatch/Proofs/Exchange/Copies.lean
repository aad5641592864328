import RpcDispatch.Proofs.Exchange.Locality
import RpcDispatch.Proofs.Exchange.Sparing

/-
This file says what the copies of a request send together.  Copies are in several hands, and each
may be called at any time, but the first call that is no progress decides about all that follow.
-/

namespace RpcDispatch

/-- What the holder of a copy can do with the request. -/
inductive Call where
  | reply (result : Except String Json.Value)
  | error (error : Rpc.Error)
  | progress (operation : String) (amount : Float)
  | close

namespace Call

def isAnswer : Call → Bool
  | .reply _ | .error _ => true
  | .progress .. | .close => false

def isClose : Call → Bool
  | .close => true
  | .reply _ | .error _ | .progress .. => false

/-- Progress leaves open what becomes of the request. -/
def decides (call : Call) : Bool :=
  call.isAnswer || call.isClose

/-- What a call hands to the sender of the client while the request is open. -/
def delivery? (key : Key) (request : Request) : Call → Option Delivery
  | .reply result => some ⟨.answer key, request.client, resultText result request.id⟩
  | .error fault => some ⟨.answer key, request.client, Rpc.errorText request.id fault⟩
  | .progress operation amount =>
    some ⟨.progress key, request.client, Rpc.progressText request.id operation amount⟩
  | .close => none

end Call

/-- The call on the request with the key that an act is.  All copies of a request have its key. -/
def Act.call? {σ : Type} (key : Key) : Act σ → Option Call
  | .reply other result => if other = key then some (.reply result) else none
  | .error other fault => if other = key then some (.error fault) else none
  | .progress other operation amount =>
    if other = key then some (.progress operation amount) else none
  | .close other => if other = key then some .close else none
  | .write _ | .note _ | .log _ | .switch _ => none

/-- The calls on a request among some acts, in order. -/
def callsOn {σ : Type} (key : Key) (acts : List (Act σ)) : List Call :=
  acts.filterMap (Act.call? key)

namespace Channel

/-- Nothing is sent through the channel any more. -/
def isSilent (channel : Channel) : Bool :=
  channel.request.isNotification || channel.closed || channel.answered

/-- What a call does to the channel that the copies share. -/
def hear (channel : Channel) (call : Call) : Channel :=
  { channel with
    answered := channel.answered || (!channel.isSilent && call.isAnswer)
    closed := channel.closed || call.isClose }

/-- What calls send through a channel, in order. -/
def sends (key : Key) : Channel → List Call → List Delivery
  | _, [] => []
  | channel, call :: calls =>
    (if channel.isSilent then [] else (call.delivery? key channel.request).toList) ++
      (channel.hear call).sends key calls

/-- A silent channel stays silent. -/
theorem isSilent_hear {channel : Channel} (silent : channel.isSilent = true) (call : Call) :
    (channel.hear call).isSilent = true := by
  simp only [isSilent, hear, Bool.or_eq_true] at silent ⊢
  rcases silent with (notification | closed) | answered
  · exact .inl (.inl notification)
  · exact .inl (.inr (.inl closed))
  · exact .inr (.inl answered)

/-- A silent channel is not answered by any call, and sends nothing. -/
theorem hearAll_silent {channel : Channel} (silent : channel.isSilent = true) (key : Key)
    (calls : List Call) :
    channel.sends key calls = [] ∧ (calls.foldl hear channel).answered = channel.answered := by
  induction calls generalizing channel with
  | nil => exact ⟨rfl, rfl⟩
  | cons call calls ih =>
      obtain ⟨nothing, same⟩ := ih (isSilent_hear silent call)
      refine ⟨?_, same.trans ?_⟩
      · rw [sends, if_pos silent, nothing]
        rfl
      · rw [hear, silent, Bool.not_true, Bool.false_and, Bool.or_false]

/-- A channel is closed after calls if it was closed before or one of them closes it. -/
theorem hearAll_closed (channel : Channel) (calls : List Call) :
    (calls.foldl hear channel).closed = (channel.closed || calls.any Call.isClose) := by
  induction calls generalizing channel with
  | nil => exact (Bool.or_false _).symm
  | cons call calls ih => rw [List.foldl_cons, ih, hear, List.any_cons, Bool.or_assoc]

/-- An open channel sends what the calls up to the first decisive one send, and is answered exactly
if that one is an answer. -/
theorem hearAll_open {channel : Channel} (speaks : channel.isSilent = false) (key : Key)
    (calls : List Call) :
    channel.sends key calls =
        (calls.takeWhile (!·.decides) ++ (calls.find? Call.decides).toList).filterMap
          (Call.delivery? key channel.request) ∧
      (calls.foldl hear channel).answered = (calls.find? Call.decides).any Call.isAnswer := by
  have unanswered : channel.answered = false := by
    simp only [isSilent, Bool.or_eq_false_iff] at speaks
    exact speaks.2
  induction calls generalizing channel with
  | nil => exact ⟨rfl, unanswered⟩
  | cons call calls ih =>
      have heard : channel.sends key (call :: calls) =
          (call.delivery? key channel.request).toList ++ (channel.hear call).sends key calls := by
        rw [sends, if_neg (by simp [speaks])]
      have answered : (channel.hear call).answered = call.isAnswer := by
        rw [hear, unanswered, speaks, Bool.not_false, Bool.true_and, Bool.false_or]
      have first (rest : List Call) :
          (call :: rest).filterMap (Call.delivery? key channel.request) =
            (call.delivery? key channel.request).toList ++
              rest.filterMap (Call.delivery? key channel.request) := by
        simp only [List.filterMap_eq_flatMap_toList, List.flatMap_cons]
      cases decides : call.decides with
      | true =>
          -- after the decision the channel is silent
          have silent : (channel.hear call).isSilent = true := by
            have decided := decides
            rw [Call.decides, Bool.or_eq_true] at decided
            rw [isSilent, answered, hear, Bool.or_eq_true, Bool.or_eq_true, Bool.or_eq_true]
            rcases decided with answers | closes
            · exact .inr answers
            · exact .inl (.inr (.inr closes))
          obtain ⟨nothing, same⟩ := hearAll_silent silent key calls
          rw [List.takeWhile_cons_of_neg (by simp [decides]), List.find?_cons_of_pos decides]
          refine ⟨?_, same.trans answered⟩
          rw [heard, nothing]
          exact (first []).symm
      | false =>
          -- progress leaves the channel as it is
          have still : channel.hear call = channel := by
            have undecided := decides
            rw [Call.decides, Bool.or_eq_false_iff] at undecided
            rw [hear, undecided.1, undecided.2, Bool.and_false, Bool.or_false, Bool.or_false]
          obtain ⟨sent, last⟩ := ih speaks unanswered
          rw [List.takeWhile_cons_of_pos (by simp [decides]),
            List.find?_cons_of_neg (by simp [decides]), List.cons_append, first, List.foldl_cons,
            still]
          refine ⟨?_, last⟩
          rw [heard, still, sent]

end Channel

namespace Exchange

variable {σ : Type} {key : Key} {channel : Channel} {exchange before after : Exchange σ}

/-! ### Calls on the request -/

/-- The texts for a request among more deliveries. -/
theorem textsFor_append {sent : List Delivery}
    (deliveries : after.deliveries = before.deliveries ++ sent)
    (own : ∀ delivery ∈ sent, delivery.cause = .answer key ∨ delivery.cause = .progress key) :
    after.textsFor key = before.textsFor key ++ sent := by
  have all : sent.filter (fun delivery =>
      delivery.cause = .answer key ∨ delivery.cause = .progress key) = sent :=
    List.filter_eq_self.mpr fun delivery member => decide_eq_true (own delivery member)
  rw [textsFor, deliveries, List.filter_append, all, textsFor]

/-- An answer marks its request and sends a text unless the request is silent. -/
theorem answer_heard (found : exchange.channel? key = some channel) (encode : Rpc.Id → String) :
    (exchange.answer key encode).channel? key =
        some { channel with answered := channel.answered || !channel.isSilent } ∧
      (exchange.answer key encode).textsFor key = exchange.textsFor key ++
        if channel.isSilent then []
        else [⟨.answer key, channel.request.client, encode channel.request.id⟩] := by
  obtain ⟨channels, deliveries⟩ := exchange.answer_parts encode found
  have enrolled : key < exchange.channels.length := (List.getElem?_eq_some_iff.mp found).1
  rw [channel?, channels, List.getElem?_set_self enrolled]
  unfold Channel.answer at deliveries ⊢
  rw [Channel.isSilent]
  split_ifs at deliveries ⊢ with silent
  · refine ⟨?_, textsFor_append deliveries (by simp)⟩
    rw [silent, Bool.not_true, Bool.or_false]
  · refine ⟨?_, textsFor_append deliveries (by simp)⟩
    rw [Bool.not_eq_true] at silent
    rw [silent, Bool.not_false, Bool.or_true]

/-- Progress leaves the request as it is and sends a text unless the request is silent. -/
theorem progress_heard (found : exchange.channel? key = some channel) (operation : String)
    (amount : Float) :
    (exchange.progress key operation amount).channel? key = some channel ∧
      (exchange.progress key operation amount).textsFor key = exchange.textsFor key ++
        if channel.isSilent then []
        else [⟨.progress key, channel.request.client,
          Rpc.progressText channel.request.id operation amount⟩] := by
  rw [progress, found]
  dsimp only
  rw [Channel.isSilent]
  split_ifs with silent
  · exact ⟨found, (List.append_nil _).symm⟩
  · refine ⟨?_, textsFor_append (send_deliveries _ _ _ _) (by simp)⟩
    rw [channel?, send_channels]
    exact found

/-- Closing marks the request and sends nothing. -/
theorem close_heard (found : exchange.channel? key = some channel) :
    (exchange.close key).channel? key = some { channel with closed := true } ∧
      (exchange.close key).textsFor key = exchange.textsFor key := by
  refine ⟨?_, rfl⟩
  rw [channel?] at found
  simp [channel?, close, update, found]

/-- A call on a copy changes the channel, and sends what the channel lets through. -/
theorem perform_call (found : exchange.channel? key = some channel) {act : Act σ} {call : Call}
    (called : act.call? key = some call) :
    (exchange.perform act).channel? key = some (channel.hear call) ∧
      (exchange.perform act).textsFor key = exchange.textsFor key ++
        if channel.isSilent then [] else (call.delivery? key channel.request).toList := by
  cases act with
  | reply other result =>
      obtain ⟨rfl, rfl⟩ : other = key ∧ Call.reply result = call := by
        simpa [Act.call?] using called
      have heard := answer_heard found (resultText result)
      rw [perform, reply_eq]
      simpa [Channel.hear, Call.isAnswer, Call.isClose, Call.delivery?] using heard
  | error other fault =>
      obtain ⟨rfl, rfl⟩ : other = key ∧ Call.error fault = call := by
        simpa [Act.call?] using called
      have heard := answer_heard found fun id => Rpc.errorText id fault
      rw [perform, error]
      simpa [Channel.hear, Call.isAnswer, Call.isClose, Call.delivery?] using heard
  | progress other operation amount =>
      obtain ⟨rfl, rfl⟩ : other = key ∧ Call.progress operation amount = call := by
        simpa [Act.call?] using called
      have heard := progress_heard found operation amount
      rw [perform]
      simpa [Channel.hear, Call.isAnswer, Call.isClose, Call.delivery?] using heard
  | close other =>
      obtain ⟨rfl, rfl⟩ : other = key ∧ Call.close = call := by
        simpa [Act.call?] using called
      have heard := close_heard found
      rw [perform]
      simpa [Channel.hear, Call.isAnswer, Call.isClose, Call.delivery?] using heard
  | write | note | log | switch => cases called

/-! ### Everything else -/

/-- A text that is for another request, or for none. -/
theorem textsFor_foreign {cause : Cause} {client : ClientId} {text : String}
    (deliveries : after.deliveries = before.deliveries ++ [⟨cause, client, text⟩])
    (foreign : ¬(cause = .answer key ∨ cause = .progress key)) :
    after.textsFor key = before.textsFor key := by
  rw [textsFor, deliveries, List.filter_append, textsFor]
  simpa using foreign

/-- An answer to another request leaves this one. -/
theorem answer_apart {other : Key} (apart : other ≠ key) (encode : Rpc.Id → String) :
    (exchange.answer other encode).channel? key = exchange.channel? key ∧
      (exchange.answer other encode).textsFor key = exchange.textsFor key := by
  rcases exchange.answer_cases other encode with
    same | ⟨notice, same⟩ | ⟨channel, -, -, -, -, same⟩
  · rw [same]
    exact ⟨rfl, rfl⟩
  · rw [same]
    exact ⟨rfl, by rw [textsFor, log_deliveries, textsFor]⟩
  · rw [same]
    refine ⟨channel?_modify (send_channels _ _ _ _) apart, ?_⟩
    exact textsFor_foreign (send_deliveries _ _ _ _) (by simpa using apart)

/-- Progress of another request leaves this one. -/
theorem progress_apart {other : Key} (apart : other ≠ key) (operation : String)
    (amount : Float) :
    (exchange.progress other operation amount).channel? key = exchange.channel? key ∧
      (exchange.progress other operation amount).textsFor key = exchange.textsFor key := by
  rcases exchange.progress_cases other operation amount with
    same | ⟨channel, text, -, -, -, -, same⟩
  · rw [same]
    exact ⟨rfl, rfl⟩
  · rw [same]
    refine ⟨by rw [channel?, send_channels, channel?], ?_⟩
    exact textsFor_foreign (send_deliveries _ _ _ _) (by simpa using apart)

/-- What is no call on a request leaves its channel and its texts alone. -/
theorem perform_foreign {act : Act σ} (foreign : act.call? key = none) :
    (exchange.perform act).channel? key = exchange.channel? key ∧
      (exchange.perform act).textsFor key = exchange.textsFor key := by
  cases act with
  | reply other result =>
      rw [perform, reply_eq]
      exact answer_apart (by simpa [Act.call?] using foreign) _
  | error other fault =>
      rw [perform, error]
      exact answer_apart (by simpa [Act.call?] using foreign) _
  | progress other operation amount =>
      exact progress_apart (by simpa [Act.call?] using foreign) operation amount
  | close other =>
      exact ⟨channel?_modify rfl (by simpa [Act.call?] using foreign), rfl⟩
  | write state => exact ⟨rfl, rfl⟩
  | note value =>
      have still : Still exchange (exchange.perform (.note value)) := exchange.perform_still trivial
      exact ⟨still.channel? key, by rw [textsFor, still.deliveries, textsFor]⟩
  | log notice =>
      have still := (Still.refl exchange).log notice
      exact ⟨still.channel? key, by rw [perform, textsFor, still.deliveries, textsFor]⟩
  | switch thread => exact ⟨rfl, rfl⟩

/-! ### All calls -/

/-- Among any acts, the calls on a request alone decide what its channel becomes and what is sent
for it. -/
theorem foldl_perform (found : exchange.channel? key = some channel) (acts : List (Act σ)) :
    (acts.foldl perform exchange).channel? key =
        some ((callsOn key acts).foldl Channel.hear channel) ∧
      (acts.foldl perform exchange).textsFor key =
        exchange.textsFor key ++ channel.sends key (callsOn key acts) := by
  induction acts generalizing exchange channel with
  | nil => exact ⟨found, (List.append_nil _).symm⟩
  | cons act acts ih =>
      cases called : act.call? key with
      | none =>
          obtain ⟨same, silent⟩ : (exchange.perform act).channel? key = exchange.channel? key ∧
              (exchange.perform act).textsFor key = exchange.textsFor key := perform_foreign called
          obtain ⟨becomes, sent⟩ := ih (same.trans found)
          rw [List.foldl_cons, callsOn, List.filterMap_cons_none called]
          exact ⟨becomes, sent.trans (by rw [silent, callsOn])⟩
      | some call =>
          obtain ⟨heard, spoken⟩ := perform_call found called
          obtain ⟨becomes, sent⟩ := ih heard
          rw [List.foldl_cons, callsOn, List.filterMap_cons_some called]
          refine ⟨becomes, sent.trans ?_⟩
          rw [spoken, List.append_assoc, Channel.sends, callsOn]

/-- The reply channel of a new request.  Whatever is done through copies of it, and to anything
else in between, a notification sends nothing.  For any other request the first call that is no
progress decides: the progress before it is sent, and its own text if it is an answer, and nothing
after it.  All copies see the request as answered exactly if the first decision is an answer, and as
closed exactly if some call has closed it. -/
theorem first_decision_settles (exchange : Exchange σ) (request : Request) (acts : List (Act σ)) :
    let key := (exchange.enroll request).1
    let later := acts.foldl perform (exchange.enroll request).2
    let calls := callsOn key acts
    let decision := calls.find? Call.decides
    later.textsFor key = exchange.textsFor key ++
        (if request.isNotification then []
          else (calls.takeWhile (!·.decides) ++ decision.toList).filterMap
            (Call.delivery? key request)) ∧
      later.isAnswered key = (!request.isNotification && decision.any Call.isAnswer) ∧
      later.isClosed key = calls.any Call.isClose := by
  intro key later calls decision
  have found : (exchange.enroll request).2.channel? key = some (.open request) := by
    rw [enroll_channel?]
    exact if_pos rfl
  obtain ⟨becomes, sent⟩ := foldl_perform found acts
  have closed := (Channel.open request).hearAll_closed calls
  rw [isAnswered, isClosed, becomes, Option.any_some, Option.any_some]
  cases notification : request.isNotification with
  | true =>
      have silent : (Channel.open request).isSilent = true := by
        simp [Channel.isSilent, Channel.open, notification]
      obtain ⟨nothing, answered⟩ := Channel.hearAll_silent silent key calls
      exact ⟨sent.trans (congrArg _ nothing), answered, closed⟩
  | false =>
      have speaks : (Channel.open request).isSilent = false := by
        simp [Channel.isSilent, Channel.open, notification]
      obtain ⟨spoken, answered⟩ := Channel.hearAll_open speaks key calls
      exact ⟨sent.trans (congrArg _ spoken), answered, closed⟩

end Exchange

end RpcDispatch
