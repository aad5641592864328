import RpcDispatch.Proofs.Dispatch.Rejection
import RpcDispatch.Proofs.Rpc.Outbound

/-
This file says that clients can read what they are told: results, errors and rejections.
-/

namespace RpcDispatch

variable {σ : Type}

open Exchange (Adds)

namespace Dispatcher

/-- The answers to a request are read as what they were made of, if its result has no floats and
nests at most 126 containers deep; so is the error of a rejection, with or without an identifier.
The params of a request that was read are such a result, if they have no floats. -/
theorem answers_read_back :
    (∀ (exchange : Exchange σ) (key : Key) (request : Request), exchange.Awaits key request →
      exchange.isAnswered key = false → request.id.Fits →
        (∀ result, Json.Portable 126 result → ∃ text,
          (exchange.reply key (.ok result)).deliveries =
            exchange.deliveries ++ [⟨.answer key, request.client, text⟩] ∧
          Rpc.ReadsReply request.id result text) ∧
        ∀ error, ∃ text,
          (exchange.error key error).deliveries =
            exchange.deliveries ++ [⟨.answer key, request.client, text⟩] ∧
          Rpc.ReadsError request.id error text) ∧
    (∀ (exchange : Exchange σ) (client : ClientId) (id : Rpc.Id) (error : Rpc.Error), id.Fits →
      ∃ text, Adds ⟨.direct, client, text⟩ (exchange.log (.rejected client id error)).pause
          (reject client id error exchange) ∧
        Rpc.ReadsError id error text) ∧
    ∀ (exchange : Exchange σ) (client : ClientId) (payload : Bytes) (framing : Rpc.Framing)
      (envelope : Rpc.Envelope), Rpc.Envelope.parse payload framing = .ok envelope →
      Json.FloatFree envelope.message.params → envelope.message.id ≠ .absent →
        let request : Request := ⟨client, envelope.message, envelope.binary⟩
        let (key, enrolled) := exchange.enroll request
        ∃ text, (enrolled.reply key (.ok request.params)).deliveries =
            exchange.deliveries ++ [⟨.answer key, client, text⟩] ∧
          Rpc.ReadsReply request.id request.params text := by
  refine ⟨fun exchange key request awaits unanswered fits => ⟨fun result portable => ?_,
    fun error => ?_⟩, fun exchange client id error fits => ?_, fun exchange client payload framing
      envelope accepted plain named => ?_⟩
  · exact ⟨_, awaits.deliveries unanswered fun id => Rpc.replyText id result,
      Rpc.replyText_reads fits portable⟩
  · exact ⟨_, awaits.deliveries unanswered fun id => Rpc.errorText id error,
      Rpc.errorText_reads fits error⟩
  · exact ⟨_, reject_adds client id error exchange, Rpc.errorText_reads fits error⟩
  · intro request
    obtain ⟨fits, portable⟩ := Rpc.Envelope.portable_of_parse accepted
    have expected : request.isNotification = false := by
      unfold Request.isNotification Rpc.Id.isEmpty
      split
      · next absent => exact absurd absent named
      · rfl
    have unanswered : (exchange.enroll request).2.isAnswered exchange.channels.length = false := by
      simp [Exchange.isAnswered, Exchange.enroll_channel?, Channel.open]
    exact ⟨_, (exchange.enroll_awaits expected).deliveries unanswered fun id =>
      Rpc.replyText id request.params, Rpc.replyText_reads fits (portable plain)⟩

/-- A request beyond ASCII has its params echoed, is told what is wrong with them, and the client of
a payload without identifier is told too. -/
theorem answers_read_back_echo :
    let params : Json.Value := .array [.object [("𝄞", .null)], .integer (-5)]
    let request : Request := ⟨⟨1⟩, .request "echo" params (.string "é\n"), []⟩
    let error : Rpc.Error := .paramsSchema [⟨"/0", "no \"number\""⟩, ⟨"", "\\ü"⟩]
    let exchange : Exchange Unit := .start () fun _ _ => none
    let opened := (exchange.enroll request).2
    (∃ text, (opened.reply 0 (.ok params)).deliveries = [⟨.answer 0, ⟨1⟩, text⟩] ∧
      Rpc.ReadsReply request.id params text) ∧
    (∃ text, (opened.reply 0 (.ok (.bool true))).deliveries = [⟨.answer 0, ⟨1⟩, text⟩] ∧
      Rpc.ReadsReply request.id (.bool true) text) ∧
    (∃ text, (opened.error 0 error).deliveries = [⟨.answer 0, ⟨1⟩, text⟩] ∧
      Rpc.ReadsError request.id error text) ∧
    (∃ text, (reject ⟨2⟩ .absent error exchange).deliveries = [⟨.direct, ⟨2⟩, text⟩] ∧
      Rpc.ReadsError .absent error text) ∧
    Rpc.Envelope.parse (Text.Utf8.encode request.message.text) .text =
      .ok ⟨request.message, []⟩ ∧
    Json.FloatFree params := by
  intro params request error exchange opened
  have inner : Json.Portable 125 (.object [("𝄞", .null)]) := by
    apply Json.Portable.object (List.pairwise_singleton _ _)
    simp only [List.forall_mem_cons]
    exact ⟨.null, nofun⟩
  have portable : Json.Portable 126 params := by
    apply Json.Portable.array
    simp only [List.forall_mem_cons]
    exact ⟨inner, .integer (by decide), nofun⟩
  have plain : Json.FloatFree params := by
    apply Json.FloatFree.array
    simp only [List.forall_mem_cons]
    refine ⟨.object ?_, .integer _, nofun⟩
    simp only [List.forall_mem_cons]
    exact ⟨.null, nofun⟩
  have named : request.message.method ≠ "" := by
    change "echo" ≠ ""
    decide
  have fits : request.message.id.Fits := trivial
  have accepted : Rpc.Envelope.parse (Text.Utf8.encode request.message.text) .text =
      .ok ⟨request.message, []⟩ :=
    Rpc.Envelope.parse_framed rfl named fits portable (.text _)
  have awaits : opened.Awaits 0 request := exchange.enroll_awaits rfl
  obtain ⟨answered, rejected, echoed⟩ := answers_read_back (σ := Unit)
  obtain ⟨replied, failed⟩ := answered opened 0 request awaits rfl fits
  obtain ⟨text, adds, reads⟩ := rejected exchange ⟨2⟩ .absent error trivial
  exact ⟨echoed exchange ⟨1⟩ _ .text _ accepted plain nofun, replied _ (.bool true), failed error,
    ⟨text, adds.deliveries, reads⟩, accepted, plain⟩

end Dispatcher

end RpcDispatch
