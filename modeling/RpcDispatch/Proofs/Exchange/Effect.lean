import RpcDispatch.Entrypoint.Basic
import Mathlib.Data.List.Basic

/-
This file says what an act does to the channels and to the texts that clients were given.  Every
later statement about requests goes through these effects and opens no operation of the exchange.
-/

namespace RpcDispatch

/-- A text carries an identifier when it is a reply or an error for it. -/
def Rpc.IsAnswer (id : Rpc.Id) (text : String) : Prop :=
  (∃ result, text = Rpc.replyText id result) ∨ ∃ error, text = Rpc.errorText id error

/-- A text that was handed to the sender of a client, with what it was sent for. -/
structure Delivery where
  cause : Cause
  client : ClientId
  text : String
  deriving DecidableEq

/-- The text that an event hands to a sender, whether or not it arrives. -/
def Event.delivery? : Event → Option Delivery
  | @Event.sent cause client text _ => some ⟨cause, client, text⟩
  | _ => none

/-- The hook that an event calls. -/
def Event.hook? : Event → Option Hook
  | .called _ hook => some hook
  | _ => none

/-- The text of a reply. -/
def resultText (result : Except String Json.Value) (id : Rpc.Id) : String :=
  match result with
  | .ok value => Rpc.replyText id value
  | .error fault => Rpc.errorText id (.internal ("Failed to serialize result: " ++ fault))

namespace Exchange

variable {σ : Type}

/-- All texts that were handed to senders, in order. -/
def deliveries (exchange : Exchange σ) : List Delivery :=
  exchange.trace.filterMap Event.delivery?

/-- All calls of hooks, in order. -/
def calls (exchange : Exchange σ) : List Hook :=
  exchange.trace.filterMap Event.hook?

/-- The requests of all channels, in the order of their keys. -/
def requests (exchange : Exchange σ) : List Request :=
  exchange.channels.map (·.request)

def isAnswered (exchange : Exchange σ) (key : Key) : Bool :=
  (exchange.channel? key).any (·.answered)

def isClosed (exchange : Exchange σ) (key : Key) : Bool :=
  (exchange.channel? key).any (·.closed)

/-! ### Reports, calls and texts -/

@[simp] theorem log_channels (exchange : Exchange σ) (notice : Log.Notice) :
    (exchange.log notice).channels = exchange.channels := rfl

@[simp] theorem log_others (exchange : Exchange σ) (notice : Log.Notice) :
    (exchange.log notice).others = exchange.others := rfl

@[simp] theorem log_deliveries (exchange : Exchange σ) (notice : Log.Notice) :
    (exchange.log notice).deliveries = exchange.deliveries := by
  simp [log, record, deliveries, Event.delivery?]

@[simp] theorem log_calls (exchange : Exchange σ) (notice : Log.Notice) :
    (exchange.log notice).calls = exchange.calls := by
  simp [log, record, calls, Event.hook?]

@[simp] theorem record_called_calls (exchange : Exchange σ) (method : String) (hook : Hook) :
    (exchange.record (.called method hook)).calls = exchange.calls ++ [hook] := by
  simp [record, calls, Event.hook?]

@[simp] theorem record_called_deliveries (exchange : Exchange σ) (method : String)
    (hook : Hook) :
    (exchange.record (.called method hook)).deliveries = exchange.deliveries := by
  simp [record, deliveries, Event.delivery?]

@[simp] theorem record_chunk_calls (exchange : Exchange σ) (client : ClientId)
    (bytes : Bytes) : (exchange.record (.chunk client bytes)).calls = exchange.calls := by
  simp [record, calls, Event.hook?]

@[simp] theorem record_chunk_deliveries (exchange : Exchange σ) (client : ClientId)
    (bytes : Bytes) :
    (exchange.record (.chunk client bytes)).deliveries = exchange.deliveries := by
  simp [record, deliveries, Event.delivery?]

@[simp] theorem close_calls (exchange : Exchange σ) (key : Key) :
    (exchange.close key).calls = exchange.calls := rfl

@[simp] theorem attempt_channels (exchange : Exchange σ) (client : ClientId) (text : String)
    (cause : Cause) : (exchange.attempt client text cause).2.channels = exchange.channels := rfl

@[simp] theorem attempt_others (exchange : Exchange σ) (client : ClientId) (text : String)
    (cause : Cause) : (exchange.attempt client text cause).2.others = exchange.others := rfl

@[simp] theorem attempt_deliveries (exchange : Exchange σ) (client : ClientId) (text : String)
    (cause : Cause) :
    (exchange.attempt client text cause).2.deliveries =
      exchange.deliveries ++ [⟨cause, client, text⟩] := by
  simp [attempt, record, deliveries, Event.delivery?]

@[simp] theorem attempt_calls (exchange : Exchange σ) (client : ClientId) (text : String)
    (cause : Cause) : (exchange.attempt client text cause).2.calls = exchange.calls := by
  simp [attempt, record, calls, Event.hook?]

/-- A new channel comes after all others. -/
@[simp] theorem enroll_requests (exchange : Exchange σ) (request : Request) :
    (exchange.enroll request).2.requests = exchange.requests ++ [request] := by
  simp [enroll, requests, Channel.open]

@[simp] theorem enroll_deliveries (exchange : Exchange σ) (request : Request) :
    (exchange.enroll request).2.deliveries = exchange.deliveries := rfl

theorem length_requests (exchange : Exchange σ) :
    exchange.requests.length = exchange.channels.length := by
  simp [requests]

/-- Sending ends in the attempt, with a report on either side of it. -/
theorem send_eq (exchange : Exchange σ) (cause : Cause) (request : Request) (text : String) :
    let reported := exchange.log (.sending request.client request.id text.utf8ByteSize)
    let sent := (reported.attempt request.client text cause).2
    exchange.send cause request text = sent ∨
      ∃ fault, exchange.send cause request text = sent.log (.undelivered request.client fault) := by
  intro reported sent
  cases failed : (reported.attempt request.client text cause).1 with
  | none =>
      left
      simp only [attempt] at failed
      simp [send, attempt, sent, reported, failed]
  | some fault =>
      right
      simp only [attempt] at failed
      exact ⟨fault, by simp [send, attempt, sent, reported, failed]⟩

@[simp] theorem send_channels (exchange : Exchange σ) (cause : Cause) (request : Request)
    (text : String) : (exchange.send cause request text).channels = exchange.channels := by
  rcases exchange.send_eq cause request text with same | ⟨fault, same⟩ <;> simp [same]

@[simp] theorem send_others (exchange : Exchange σ) (cause : Cause) (request : Request)
    (text : String) : (exchange.send cause request text).others = exchange.others := by
  rcases exchange.send_eq cause request text with same | ⟨fault, same⟩ <;> simp [same]

@[simp] theorem send_deliveries (exchange : Exchange σ) (cause : Cause) (request : Request)
    (text : String) :
    (exchange.send cause request text).deliveries =
      exchange.deliveries ++ [⟨cause, request.client, text⟩] := by
  rcases exchange.send_eq cause request text with same | ⟨fault, same⟩ <;> simp [same]

@[simp] theorem send_calls (exchange : Exchange σ) (cause : Cause) (request : Request)
    (text : String) : (exchange.send cause request text).calls = exchange.calls := by
  rcases exchange.send_eq cause request text with same | ⟨fault, same⟩ <;> simp [same]

/-! ### Acts -/

/-- Answering changes nothing, leaves a report, or marks an open request and sends its text. -/
theorem answer_cases (exchange : Exchange σ) (key : Key) (encode : Rpc.Id → String) :
    exchange.answer key encode = exchange ∨
      (∃ notice, exchange.answer key encode = exchange.log notice) ∨
      ∃ channel, exchange.channel? key = some channel ∧
        channel.request.isNotification = false ∧ channel.closed = false ∧
        channel.answered = false ∧
        exchange.answer key encode =
          (exchange.update key fun channel => { channel with answered := true }).send
            (.answer key) channel.request (encode channel.request.id) := by
  unfold answer
  split
  · exact .inl rfl
  · next channel found =>
      dsimp only
      split_ifs with notified closed answered
      · exact .inl rfl
      · exact .inr (.inl ⟨_, rfl⟩)
      · exact .inr (.inl ⟨_, rfl⟩)
      · exact .inr (.inr ⟨channel, found, by simpa using notified, by simpa using closed,
          by simpa using answered, rfl⟩)

/-- After answering an open request it is answered, if not by this answer. -/
theorem answer_isAnswered (exchange : Exchange σ) (key : Key) (encode : Rpc.Id → String)
    (channel : Channel) (found : exchange.channel? key = some channel)
    (expected : channel.request.isNotification = false) (opened : channel.closed = false) :
    (exchange.answer key encode).isAnswered key = true := by
  unfold answer
  rw [found]
  dsimp only
  rw [if_neg (by simp [expected]), if_neg (by simp [opened])]
  split_ifs with first
  · change (exchange.channel? key).any (·.answered) = true
    rw [found]
    exact first
  · simp only [isAnswered, channel?, send_channels, update] at found ⊢
    simp [found]

/-- The first answer to an open request is sent. -/
theorem answer_deliveries (exchange : Exchange σ) (key : Key) (encode : Rpc.Id → String)
    (channel : Channel) (found : exchange.channel? key = some channel)
    (expected : channel.request.isNotification = false) (opened : channel.closed = false)
    (first : channel.answered = false) :
    (exchange.answer key encode).deliveries = exchange.deliveries ++
      [⟨.answer key, channel.request.client, encode channel.request.id⟩] := by
  simp only [answer, found, expected, opened, first]
  exact send_deliveries _ _ _ _

/-- Progress is sent for an open request and changes nothing otherwise. -/
theorem progress_cases (exchange : Exchange σ) (key : Key) (operation : String)
    (amount : Float) :
    exchange.progress key operation amount = exchange ∨
      ∃ channel text, exchange.channel? key = some channel ∧
        channel.request.isNotification = false ∧ channel.closed = false ∧
        channel.answered = false ∧
        exchange.progress key operation amount =
          exchange.send (.progress key) channel.request text := by
  unfold progress
  split
  · exact .inl rfl
  · next channel found =>
      split_ifs with quiet
      · exact .inl rfl
      · simp only [Bool.or_eq_true, not_or, Bool.not_eq_true] at quiet
        exact .inr ⟨channel, _, found, quiet.1.1, quiet.1.2, quiet.2, rfl⟩

theorem reply_eq (exchange : Exchange σ) (key : Key) (result : Except String Json.Value) :
    exchange.reply key result = exchange.answer key (resultText result) := by
  cases result <;> rfl

/-- A reply is an answer whose text carries the identifier. -/
theorem reply_eq_answer (exchange : Exchange σ) (key : Key) (result : Except String Json.Value) :
    ∃ encode, (∀ id, Rpc.IsAnswer id (encode id)) ∧
      exchange.reply key result = exchange.answer key encode := by
  refine ⟨resultText result, fun id => ?_, exchange.reply_eq key result⟩
  cases result with
  | error fault => exact .inr ⟨_, rfl⟩
  | ok value => exact .inl ⟨value, rfl⟩

/-- The effect of an act on the channels and on the texts that were sent.  It is silent, or it
gives a request its first answer, reports its progress, or closes it. -/
inductive Effect (act : Act σ) (before after : Exchange σ) : Prop where
  | silent (channels : after.channels = before.channels)
      (deliveries : after.deliveries = before.deliveries)
  | answer (key : Key) (channel : Channel) (text : String)
      (found : before.channel? key = some channel)
      (expected : channel.request.isNotification = false) (opened : channel.closed = false)
      (first : channel.answered = false) (carries : Rpc.IsAnswer channel.request.id text)
      (channels : after.channels =
        before.channels.modify key fun channel => { channel with answered := true })
      (deliveries : after.deliveries =
        before.deliveries ++ [⟨.answer key, channel.request.client, text⟩])
  | progress (key : Key) (channel : Channel) (text : String)
      (found : before.channel? key = some channel)
      (expected : channel.request.isNotification = false) (opened : channel.closed = false)
      (first : channel.answered = false) (channels : after.channels = before.channels)
      (deliveries : after.deliveries =
        before.deliveries ++ [⟨.progress key, channel.request.client, text⟩])
  | close (key : Key) (same : act = .close key)
      (channels : after.channels =
        before.channels.modify key fun channel => { channel with closed := true })
      (deliveries : after.deliveries = before.deliveries)

theorem answer_effect (act : Act σ) (exchange : Exchange σ) (key : Key) (encode : Rpc.Id → String)
    (carries : ∀ id, Rpc.IsAnswer id (encode id)) :
    Effect act exchange (exchange.answer key encode) := by
  rcases exchange.answer_cases key encode with
    same | ⟨notice, same⟩ | ⟨channel, found, expected, opened, first, same⟩
  · exact .silent (by rw [same]) (by rw [same])
  · exact .silent (by rw [same, log_channels]) (by rw [same, log_deliveries])
  · exact .answer key channel _ found expected opened first (carries _)
      (by rw [same, send_channels]; rfl) (by rw [same, send_deliveries]; rfl)

/-- Every act has one of the four effects. -/
theorem perform_effect (exchange : Exchange σ) (act : Act σ) :
    Effect act exchange (exchange.perform act) := by
  cases act with
  | reply key result =>
      obtain ⟨encode, carries, same⟩ := exchange.reply_eq_answer key result
      rw [perform, same]
      exact answer_effect _ exchange key encode carries
  | error key error =>
      rw [perform, Exchange.error]
      exact answer_effect _ exchange key _ fun _ => .inr ⟨error, rfl⟩
  | progress key operation amount =>
      rw [perform]
      rcases exchange.progress_cases key operation amount with
        same | ⟨channel, text, found, expected, opened, first, same⟩
      · exact .silent (by rw [same]) (by rw [same])
      · exact .progress key channel text found expected opened first
          (by rw [same, send_channels]) (by rw [same, send_deliveries])
  | close key => exact .close key rfl rfl rfl
  | write state => exact .silent rfl rfl
  | note value =>
      exact .silent rfl (by simp [perform, record, deliveries, Event.delivery?])
  | log notice => exact .silent rfl (log_deliveries exchange notice)
  | switch thread => exact .silent rfl rfl

/-- Answering calls no hook and leaves the other threads as they are. -/
theorem answer_calls_others (exchange : Exchange σ) (key : Key) (encode : Rpc.Id → String) :
    (exchange.answer key encode).calls = exchange.calls ∧
      (exchange.answer key encode).others = exchange.others := by
  rcases exchange.answer_cases key encode with
    same | ⟨notice, same⟩ | ⟨channel, _, _, _, _, same⟩
  · rw [same]
    exact ⟨rfl, rfl⟩
  · rw [same]
    exact ⟨log_calls exchange notice, rfl⟩
  · rw [same, send_calls, send_others]
    exact ⟨rfl, rfl⟩

/-- Acts call no hook and leave the other threads as they are. -/
theorem perform_calls_others (exchange : Exchange σ) (act : Act σ) :
    (exchange.perform act).calls = exchange.calls ∧
      (exchange.perform act).others = exchange.others := by
  cases act with
  | reply key result =>
      obtain ⟨encode, _, same⟩ := exchange.reply_eq_answer key result
      rw [perform, same]
      exact exchange.answer_calls_others key encode
  | error key error =>
      rw [perform, Exchange.error]
      exact exchange.answer_calls_others key _
  | progress key operation amount =>
      rw [perform]
      rcases exchange.progress_cases key operation amount with
        same | ⟨channel, text, _, _, _, _, same⟩
      · rw [same]
        exact ⟨rfl, rfl⟩
      · rw [same, send_calls, send_others]
        exact ⟨rfl, rfl⟩
  | note value => exact ⟨by simp [perform, record, calls, Event.hook?], rfl⟩
  | log notice => exact ⟨log_calls exchange notice, rfl⟩
  | close key => exact ⟨rfl, rfl⟩
  | write state => exact ⟨rfl, rfl⟩
  | switch thread => exact ⟨rfl, rfl⟩

@[simp] theorem perform_calls (exchange : Exchange σ) (act : Act σ) :
    (exchange.perform act).calls = exchange.calls :=
  (exchange.perform_calls_others act).1

@[simp] theorem perform_others (exchange : Exchange σ) (act : Act σ) :
    (exchange.perform act).others = exchange.others :=
  (exchange.perform_calls_others act).2

end Exchange

end RpcDispatch
