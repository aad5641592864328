import RpcDispatch.Proofs.Exchange.Move

/-
This file shows that a request has at most one answer.  An exchange grows by moves and by new
channels, and whatever it grows by, each text that was sent belongs to a request that expects it.
-/

namespace RpcDispatch

namespace Exchange

variable {σ : Type} {closes : Key → Prop} {hooks : Hook → Prop} {before middle after : Exchange σ}

/-! ### Growth -/

/-- A stretch of moves in which requests may come. -/
def Grows (closes : Key → Prop) (before after : Exchange σ) : Prop :=
  before.OthersCloseOnly closes → Relation.ReflTransGen (fun earlier later =>
    Move closes anyHook earlier later ∨ ∃ request, later = (earlier.enroll request).2) before after

/-- What every move and every new channel keeps, a growing exchange keeps. -/
theorem Grows.keeps (grows : Grows closes before after) (within : before.OthersCloseOnly closes)
    {kept : Exchange σ → Prop}
    (move : ∀ earlier later, Move closes anyHook earlier later → kept earlier → kept later)
    (enroll : ∀ earlier request, kept earlier → kept (earlier.enroll request).2)
    (start : kept before) : kept after := by
  have steps := grows within
  clear grows
  induction steps with
  | refl => exact start
  | tail _ step ih =>
      rcases step with step | ⟨request, rfl⟩
      · exact move _ _ step ih
      · exact enroll _ request ih

/-- The other threads keep to their limit while the exchange grows. -/
theorem Grows.othersCloseOnly (grows : Grows closes before after)
    (within : before.OthersCloseOnly closes) : after.OthersCloseOnly closes :=
  grows.keeps within (fun _ _ move => move.othersCloseOnly) (fun _ _ kept => kept) within

theorem Grows.refl (exchange : Exchange σ) : Grows closes exchange exchange :=
  fun _ => .refl

/-- An exchange that has grown may grow on. -/
theorem Grows.trans (first : Grows closes before middle) (second : Grows closes middle after) :
    Grows closes before after :=
  fun within => (first within).trans (second (first.othersCloseOnly within))

/-- An exchange grows by a new request. -/
theorem enroll_grows (exchange : Exchange σ) (request : Request) :
    Grows closes exchange (exchange.enroll request).2 :=
  fun _ => .single (.inr ⟨request, rfl⟩)

/-- An exchange grows by any stretch. -/
theorem Leads.grows (leads : Leads closes hooks before after) : Grows closes before after :=
  fun within => (leads within).lift id fun _ _ move => .inl (move.widen fun _ _ => trivial)

/-- A new channel leaves the others as they are. -/
theorem enroll_channel? (exchange : Exchange σ) (request : Request) (key : Key) :
    (exchange.enroll request).2.channel? key =
      if key = exchange.channels.length then some (.open request) else exchange.channel? key := by
  simp only [channel?, enroll]
  rcases Nat.lt_trichotomy key exchange.channels.length with below | equal | above
  · rw [List.getElem?_append_left below, if_neg (Nat.ne_of_lt below)]
  · rw [if_pos equal, equal]
    simp
  · rw [if_neg (Nat.ne_of_gt above), List.getElem?_eq_none (by simp; omega),
      List.getElem?_eq_none (Nat.le_of_lt above)]

/-- A request keeps its key while the exchange grows. -/
theorem Grows.requests (grows : Grows closes before after)
    (within : before.OthersCloseOnly closes) {key : Key} {request : Request}
    (found : before.requests[key]? = some request) : after.requests[key]? = some request := by
  refine @Grows.keeps σ closes before after grows within
    (fun exchange => exchange.requests[key]? = some request) (fun _ _ move kept => ?_)
    (fun earlier other kept => ?_) found
  · rw [move.requests]
    exact kept
  · rw [enroll_requests, List.getElem?_append_left (List.getElem?_eq_some_iff.mp kept).1]
    exact kept

/-- An answered request stays answered while the exchange grows. -/
theorem Grows.answered (grows : Grows closes before after)
    (within : before.OthersCloseOnly closes) {key : Key}
    (answered : before.isAnswered key = true) : after.isAnswered key = true := by
  refine grows.keeps within (fun _ _ move => move.answered) (fun earlier request kept => ?_)
    answered
  unfold isAnswered at kept ⊢
  rw [enroll_channel?]
  split_ifs with new
  · rw [new, channel?, List.getElem?_length] at kept
    cases kept
  · exact kept

/-- A request stays open while the exchange grows, where closing it is not allowed. -/
theorem Grows.opened (grows : Grows closes before after)
    (within : before.OthersCloseOnly closes) {key : Key} (barred : ¬ closes key)
    (opened : before.isClosed key = false) : after.isClosed key = false := by
  refine grows.keeps within (fun _ _ move => move.opened barred) (fun earlier request kept => ?_)
    opened
  unfold isClosed at kept ⊢
  rw [enroll_channel?]
  split_ifs
  · rfl
  · exact kept

/-! ### The texts of a request -/

/-- The answers that were sent for a request. -/
def answersTo (exchange : Exchange σ) (key : Key) : List Delivery :=
  exchange.deliveries.filter (·.cause = .answer key)

/-- All texts that were sent for a request. -/
def textsFor (exchange : Exchange σ) (key : Key) : List Delivery :=
  exchange.deliveries.filter fun delivery =>
    delivery.cause = .answer key ∨ delivery.cause = .progress key

/-- A text belongs to a request that expects one.  An answer goes to the client of the request and
carries its identifier. -/
def Owns (requests : List Request) (delivery : Delivery) : Prop :=
  match delivery.cause with
  | .answer key => ∃ request, requests[key]? = some request ∧ request.isNotification = false ∧
      delivery.client = request.client ∧ Rpc.IsAnswer request.id delivery.text
  | .progress key => ∃ request, requests[key]? = some request ∧ request.isNotification = false
  | .direct => True

/-- Every text belongs to its request, and a request has one answer if it is marked as answered
and none otherwise. -/
structure Accurate (exchange : Exchange σ) : Prop where
  owned : ∀ delivery ∈ exchange.deliveries, Owns exchange.requests delivery
  counted : ∀ key, (exchange.answersTo key).length = if exchange.isAnswered key then 1 else 0

/-- A text belongs to its request whatever requests are added. -/
theorem Owns.append {requests : List Request} {delivery : Delivery} (owns : Owns requests delivery)
    (request : Request) : Owns (requests ++ [request]) delivery := by
  have kept {key : Key} {old : Request} (found : requests[key]? = some old) :
      (requests ++ [request])[key]? = some old := by
    rw [List.getElem?_append_left (List.getElem?_eq_some_iff.mp found).1, found]
  obtain ⟨cause, client, text⟩ := delivery
  cases cause with
  | answer key =>
      obtain ⟨old, found, rest⟩ := owns
      exact ⟨old, kept found, rest⟩
  | progress key =>
      obtain ⟨old, found, rest⟩ := owns
      exact ⟨old, kept found, rest⟩
  | direct => trivial

/-- A move does what an act can do, or sends a text for no request. -/
theorem Move.effect (move : Move closes hooks before after) :
    (∃ act, Effect act before after) ∨
      ∃ client text, after.channels = before.channels ∧
        after.deliveries = before.deliveries ++ [⟨.direct, client, text⟩] := by
  cases move with
  | perform act allowed => exact .inl ⟨act, before.perform_effect act⟩
  | log notice => exact .inl ⟨.log notice, .silent rfl (before.log_deliveries notice)⟩
  | call method hook allowed =>
      exact .inl ⟨.switch .service, .silent rfl (before.record_called_deliveries method hook)⟩
  | chunk client bytes =>
      exact .inl ⟨.switch .service, .silent rfl (before.record_chunk_deliveries client bytes)⟩
  | attempt client text =>
      exact .inr ⟨client, text, rfl, before.attempt_deliveries client text .direct⟩
  | turn acts others next => exact .inl ⟨.switch .service, .silent rfl rfl⟩

/-- A text that is no answer leaves the number of answers. -/
theorem Accurate.other (accurate : before.Accurate) {delivery : Delivery}
    (requests : after.requests = before.requests)
    (answered : ∀ key, after.isAnswered key = before.isAnswered key)
    (deliveries : after.deliveries = before.deliveries ++ [delivery])
    (owned : Owns before.requests delivery) (other : ∀ key, delivery.cause ≠ .answer key) :
    after.Accurate := by
  constructor
  · intro sent member
    rw [deliveries] at member
    rw [requests]
    rcases List.mem_append.mp member with member | member
    · exact accurate.owned sent member
    · rw [List.mem_singleton] at member
      exact member ▸ owned
  · intro key
    rw [answered, ← accurate.counted key, answersTo, deliveries, List.filter_append]
    simp [answersTo, other key]

/-- The texts belong to their requests where nothing is sent and nothing marked. -/
theorem Accurate.silent (accurate : before.Accurate) (requests : after.requests = before.requests)
    (answered : ∀ key, after.isAnswered key = before.isAnswered key)
    (deliveries : after.deliveries = before.deliveries) : after.Accurate := by
  constructor
  · rw [deliveries, requests]
    exact accurate.owned
  · intro key
    rw [answered, ← accurate.counted key, answersTo, answersTo, deliveries]

/-- A request is the one of its channel. -/
theorem requests_getElem? (exchange : Exchange σ) (key : Key) :
    exchange.requests[key]? = (exchange.channel? key).map (·.request) := by
  simp [requests, channel?]

/-- A change of one channel leaves the requests when it leaves that request. -/
theorem requests_modify {key : Key} {change : Channel → Channel}
    (channels : after.channels = before.channels.modify key change)
    (same : ∀ channel, (change channel).request = channel.request) :
    after.requests = before.requests := by
  apply List.ext_getElem?
  intro other
  simp only [requests, channels, List.getElem?_map, List.getElem?_modify]
  cases before.channels[other]? with
  | none => rfl
  | some channel =>
      by_cases hit : key = other
      · simp [hit, same]
      · simp [hit]

/-- A change of one channel that leaves its mark leaves the marks of all. -/
theorem isAnswered_modify {key : Key} {change : Channel → Channel}
    (channels : after.channels = before.channels.modify key change) (other : Key)
    (same : other = key → ∀ channel, (change channel).answered = channel.answered) :
    after.isAnswered other = before.isAnswered other := by
  simp only [isAnswered, channel?, channels, List.getElem?_modify]
  cases before.channels[other]? with
  | none => rfl
  | some channel =>
      by_cases hit : key = other
      · simp [hit, same hit.symm]
      · simp [hit]

/-- What an act does keeps the texts in order. -/
theorem Accurate.effect {act : Act σ} (accurate : before.Accurate)
    (effect : Effect act before after) : after.Accurate := by
  cases effect with
  | silent channels deliveries =>
      exact accurate.silent (by rw [requests, channels, requests])
        (fun key => by rw [isAnswered, channel?, channels]; rfl) deliveries
  | answer key channel text found expected opened first carries channels deliveries =>
      have same : after.requests = before.requests := requests_modify channels fun _ => rfl
      have unanswered : before.isAnswered key = false := by
        simp [isAnswered, found, first]
      have answered : after.isAnswered key = true := by
        simp only [channel?] at found
        simp [isAnswered, channel?, channels, found]
      constructor
      · intro sent member
        rw [deliveries] at member
        rw [same]
        rcases List.mem_append.mp member with member | member
        · exact accurate.owned sent member
        · rw [List.mem_singleton] at member
          subst member
          exact ⟨channel.request, by rw [requests_getElem?, found]; rfl, expected, rfl, carries⟩
      · intro other
        have counted := accurate.counted other
        rw [answersTo] at counted
        rw [answersTo, deliveries, List.filter_append, List.length_append, counted]
        by_cases hit : other = key
        · subst hit
          simp [answered, unanswered]
        · have kept : after.isAnswered other = before.isAnswered other :=
            isAnswered_modify channels other fun here => absurd here hit
          simp [kept, Ne.symm hit]
  | progress key channel text found expected opened first channels deliveries =>
      refine accurate.other (by rw [requests, channels, requests])
        (fun key => by rw [isAnswered, channel?, channels]; rfl) deliveries ?_ (by simp)
      exact ⟨channel.request, by rw [requests_getElem?, found]; rfl, expected⟩
  | close key same channels deliveries =>
      exact accurate.silent (requests_modify channels fun _ => rfl)
        (fun other => isAnswered_modify channels other fun _ _ => rfl) deliveries

/-- A move sends texts that belong to their requests. -/
theorem Accurate.move (accurate : before.Accurate) (move : Move closes hooks before after) :
    after.Accurate := by
  rcases move.effect with ⟨act, effect⟩ | ⟨client, text, channels, deliveries⟩
  · exact accurate.effect effect
  · exact accurate.other (by rw [requests, channels, requests])
      (fun key => by rw [isAnswered, channel?, channels]; rfl) deliveries trivial (by simp)

/-- A new request has no answer yet. -/
theorem Accurate.enroll (accurate : before.Accurate) (request : Request) :
    (before.enroll request).2.Accurate := by
  constructor
  · intro delivery member
    rw [enroll_requests]
    exact (accurate.owned delivery member).append request
  · intro key
    have counted := accurate.counted key
    rw [answersTo] at counted
    rw [answersTo, enroll_deliveries, counted, isAnswered, isAnswered, enroll_channel?]
    by_cases new : key = before.channels.length
    · simp [new, channel?, Channel.open]
    · simp [new]

/-- However an exchange grows, its texts stay in order. -/
theorem Accurate.grow (accurate : before.Accurate) (grows : Grows anyKey before after) :
    after.Accurate :=
  grows.keeps before.othersCloseOnly_anyKey (fun _ _ move kept => kept.move move)
    (fun _ request kept => kept.enroll request) accurate

/-- Nothing has been sent at the start. -/
theorem accurate_start (state : σ) (senders : ClientId → Nat → Option SendFault)
    (others : List (List (Act σ))) :
    Accurate { Exchange.start state senders with others } := by
  constructor
  · simp [start, deliveries]
  · intro key
    simp [start, answersTo, deliveries, isAnswered, channel?]

/-- A request of an exchange in order has at most one answer, which goes to its client and carries
its identifier, and a notification has no text at all. -/
theorem Accurate.texts {exchange : Exchange σ} (accurate : exchange.Accurate) {key : Key}
    {request : Request} (found : exchange.requests[key]? = some request) :
    (exchange.answersTo key).length ≤ 1 ∧
      (∀ delivery ∈ exchange.answersTo key,
        delivery.client = request.client ∧ Rpc.IsAnswer request.id delivery.text) ∧
      (request.isNotification = true → exchange.textsFor key = []) := by
  refine ⟨?_, ?_, ?_⟩
  · rw [accurate.counted key]
    split_ifs <;> decide
  · intro delivery member
    obtain ⟨sent, cause⟩ := List.mem_filter.mp member
    have owned := accurate.owned delivery sent
    rw [decide_eq_true_iff] at cause
    simp only [Owns, cause] at owned
    obtain ⟨owner, same, _, client, carries⟩ := owned
    rw [found] at same
    cases same
    exact ⟨client, carries⟩
  · intro silent
    rw [textsFor, List.filter_eq_nil_iff]
    intro delivery sent cause
    have owned := accurate.owned delivery sent
    rw [decide_eq_true_iff] at cause
    rcases cause with cause | cause
    · simp only [Owns, cause] at owned
      obtain ⟨owner, same, expected, _⟩ := owned
      rw [found] at same
      cases same
      rw [silent] at expected
      cases expected
    · simp only [Owns, cause] at owned
      obtain ⟨owner, same, expected⟩ := owned
      rw [found] at same
      cases same
      rw [silent] at expected
      cases expected

end Exchange

end RpcDispatch
