import RpcDispatch.Proofs.Dispatch.Framing
import RpcDispatch.Proofs.Dispatch.Routing
import RpcDispatch.Proofs.Exchange.Visible

/-
This file says what becomes of a payload that is no request: its client gets one error, and nothing
else happens.
-/

namespace RpcDispatch

open Exchange (Speaks)

variable {σ : Type}

/-- A frame of raw data only. -/
def RawRequest.IsChunk (raw : RawRequest) : Prop :=
  raw.framing = .binary ∧ ∃ tail, Rpc.splitBinary raw.payload = .ok ⟨[], tail⟩

theorem Act.answersOnly_anyKey (act : Act σ) : act.AnswersOnly anyKey := by
  cases act <;> trivial

namespace Exchange

variable {before middle after : Exchange σ} {delivery : Delivery}

/-- A stretch in which one text is sent, and nothing happens to requests, hooks or the state. -/
structure Adds (delivery : Delivery) (before after : Exchange σ) : Prop where
  deliveries : after.deliveries = before.deliveries ++ [delivery]
  visible : after.visible = before.visible ++ [.text delivery]
  channels : after.channels = before.channels
  state : after.state = before.state
  others : after.others = before.others

theorem attempt_adds (exchange : Exchange σ) (client : ClientId) (text : String) :
    Adds ⟨.direct, client, text⟩ exchange (exchange.attempt client text).2 where
  deliveries := exchange.attempt_deliveries client text .direct
  visible := exchange.attempt_visible client text .direct
  channels := rfl
  state := rfl
  others := rfl

/-- A report may come before or after the text. -/
theorem Adds.log (adds : Adds delivery before after) (notice : Log.Notice) :
    Adds delivery before (after.log notice) where
  deliveries := (after.log_deliveries notice).trans adds.deliveries
  visible := (after.log_visible notice).trans adds.visible
  channels := adds.channels
  state := adds.state
  others := adds.others

theorem Adds.of_log {notice : Log.Notice} (adds : Adds delivery (before.log notice) after) :
    Adds delivery before after where
  deliveries := by rw [adds.deliveries, log_deliveries]
  visible := by rw [adds.visible, log_visible]
  channels := adds.channels
  state := adds.state
  others := adds.others

theorem pause_alone {exchange : Exchange σ} (alone : exchange.others = []) :
    exchange.pause = exchange := by
  rw [pause, alone]

end Exchange

open Exchange (Adds)

namespace Dispatcher

theorem reject_adds (client : ClientId) (id : Rpc.Id) (error : Rpc.Error)
    (exchange : Exchange σ) :
    Adds ⟨.direct, client, Rpc.errorText id error⟩ (exchange.log (.rejected client id error)).pause
      (reject client id error exchange) := by
  have sent := (exchange.log (.rejected client id error)).pause.attempt_adds client
    (Rpc.errorText id error)
  rcases reject_eq client id error exchange with same | ⟨fault, same⟩
  · rwa [same]
  · rw [same]
    exact sent.log _

variable {manager : TaskManager σ} {exchange : Exchange σ} {raw : RawRequest}
  {rejection : Rpc.Rejection}

/-- A payload that does not parse is rejected, and the dispatcher's own split of a frame rejects it
with the same error. -/
theorem dispatchRequest_rejected (dispatcher : Dispatcher σ)
    (rejected : Rpc.Envelope.parse raw.payload raw.framing = .error rejection)
    (noChunk : ¬raw.IsChunk) :
    dispatcher.dispatchRequest raw manager exchange =
      (manager, reject raw.client rejection.id rejection.error exchange) := by
  have parsed : dispatcher.dispatchEnvelope raw manager exchange =
      (manager, reject raw.client rejection.id rejection.error exchange) := by
    rw [dispatchEnvelope_eq, rejected]
    rfl
  unfold dispatchRequest
  split
  · exact parsed
  · next framing =>
      split
      · next fault split =>
          rw [framing, Rpc.Envelope.parse, Rpc.split, split] at rejected
          cases rejected
          rfl
      · next parts split =>
          have carries : parts.isRawChunk = false := by
            rw [Rpc.Parts.isRawChunk, List.isEmpty_eq_false_iff]
            intro none
            exact noChunk ⟨framing, parts.tail, by rw [split, ← none]⟩
          rw [carries]
          exact parsed

/-- A payload that does not parse is answered with the error of the parser, under the identifier
that it could read, and is forgotten; for a frame that does not even split, the parser gives the
error of the split and no identifier.  The tasks stay as they are and no hook is called.  Before the
error is sent, the other threads have a turn in which they can answer requests. -/
theorem rejected_leaves_one_error (dispatcher : Dispatcher σ) (manager : TaskManager σ)
    (exchange : Exchange σ) (raw : RawRequest) (rejection : Rpc.Rejection)
    (rejected : Rpc.Envelope.parse raw.payload raw.framing = .error rejection)
    (noChunk : ¬raw.IsChunk) :
    let error : Delivery :=
      ⟨.direct, raw.client, Rpc.errorText rejection.id rejection.error⟩
    (∀ fault, Rpc.split raw.payload raw.framing = .error fault →
      rejection.id = .absent ∧ rejection.error = .parsing fault.message) ∧
    ∃ turned after, dispatcher.dispatchRequest raw manager exchange = (manager, after) ∧
      turned = (exchange.log (.rejected raw.client rejection.id rejection.error)).pause ∧
      Speaks anyKey exchange turned ∧ Adds error turned after ∧ after.calls = exchange.calls ∧
      (exchange.others = [] → Adds error exchange after) := by
  intro error
  have adds := reject_adds raw.client rejection.id rejection.error exchange
  refine ⟨fun fault split => ?_, _, _, dispatcher.dispatchRequest_rejected rejected noChunk, rfl,
    ?_, adds, ?_, fun alone => ?_⟩
  · rw [Rpc.Envelope.parse, split] at rejected
    cases rejected
    exact ⟨rfl, rfl⟩
  · have logged := (Exchange.Hides.refl exchange).log
      (.rejected raw.client rejection.id rejection.error)
    exact logged.speaks.trans (Exchange.pause_speaks fun _ _ act _ => act.answersOnly_anyKey)
  · have leads : Exchange.Leads anyKey noHook exchange _ :=
      reject_leads raw.client rejection.id rejection.error exchange
    exact leads.calls_quiet exchange.othersCloseOnly_anyKey
  · have still : (exchange.log (.rejected raw.client rejection.id rejection.error)).pause =
        exchange.log (.rejected raw.client rejection.id rejection.error) :=
      Exchange.pause_alone alone
    rw [still] at adds
    exact adds.of_log

/-- An object with an identifier and nothing else is rejected under it, and a frame that is shorter
than it announces is rejected under none. -/
theorem rejected_leaves_one_error_incomplete :
    let dispatcher : Dispatcher Unit := ⟨builtinRegistry, none⟩
    let exchange : Exchange Unit := .start () fun _ _ => none
    let object : RawRequest := ⟨⟨1⟩, [123, 34, 105, 100, 34, 58, 55, 125], .text⟩
    let missing : List Rpc.Violation := [⟨"/jsonrpc", "missing required property"⟩,
      ⟨"/method", "missing required property"⟩]
    let frame : RawRequest := ⟨⟨1⟩, [2, 0, 0, 0, 49], .binary⟩
    let announced : Rpc.SplitFault := .shortJson 2 1
    (∃ after, dispatcher.dispatchRequest object .empty exchange = (.empty, after) ∧
      Adds ⟨.direct, ⟨1⟩, Rpc.errorText (.integer 7) (.requestSchema missing)⟩ exchange after) ∧
    ∃ after, dispatcher.dispatchRequest frame .empty exchange = (.empty, after) ∧
      Adds ⟨.direct, ⟨1⟩, Rpc.errorText .absent (.parsing announced.message)⟩ exchange after := by
  intro dispatcher exchange object missing frame announced
  have read : ((Rpc.Envelope.parse object.payload .text).map fun _ => ()).mapError
      (fun rejection => (rejection.id, rejection.refusal)) =
        .error (.integer 7, .schema missing) := by decide +kernel
  have parsed : Rpc.Envelope.parse object.payload .text =
      .error ⟨.integer 7, .schema missing⟩ := by
    cases parsed : Rpc.Envelope.parse object.payload .text with
    | ok envelope =>
        rw [parsed] at read
        cases read
    | error rejection =>
        rw [parsed] at read
        cases rejection
        cases read
        rfl
  have parsed' : Rpc.Envelope.parse frame.payload .binary =
      .error ⟨.absent, .framing announced⟩ := rfl
  have text : ¬object.IsChunk := by
    rintro ⟨binary, -⟩
    cases binary
  have short : ¬frame.IsChunk := by
    rintro ⟨-, tail, split⟩
    cases split
  obtain ⟨-, _, after, dispatched, -, -, -, -, adds⟩ :=
    rejected_leaves_one_error dispatcher .empty exchange object _ parsed text
  obtain ⟨-, _, after', dispatched', -, -, -, -, adds'⟩ :=
    rejected_leaves_one_error dispatcher .empty exchange frame _ parsed' short
  exact ⟨⟨after, dispatched, adds rfl⟩, after', dispatched', adds' rfl⟩

end Dispatcher

end RpcDispatch
