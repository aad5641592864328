import RpcDispatch.Dispatch
import RpcDispatch.Proofs.Rpc.Payload

/-
This file shows that the framing of a request does not matter.  A binary payload is read as its JSON
text would be, and dispatched as this text would be, except that its request has the binary tail.
-/

namespace RpcDispatch

variable {σ : Type}

namespace Rpc

/-- A binary payload splits when it has a whole length field that announces no more than what comes
behind the field. -/
theorem splitBinary_isOk (payload : Bytes) :
    (∃ parts, splitBinary payload = .ok parts) ↔
      4 ≤ payload.length ∧
        Bytes.ofLittleEndian (payload.take 4) ≤ (payload.drop 4).length := by
  unfold splitBinary
  dsimp only
  split_ifs with short within
  · constructor
    · rintro ⟨parts, impossible⟩
      cases impossible
    · rintro ⟨long, _⟩
      omega
  · exact ⟨fun _ => ⟨Nat.not_lt.mp short, within⟩, fun _ => ⟨_, rfl⟩⟩
  · constructor
    · rintro ⟨parts, impossible⟩
      cases impossible
    · rintro ⟨_, enough⟩
      exact absurd enough within

/-- The same request with other raw bytes. -/
def Envelope.withBinary (binary : Bytes) (envelope : Envelope) : Envelope :=
  { envelope with binary }

/-- What a payload is parsed as depends on its parts only. -/
theorem Envelope.parse_of_split {payload : Bytes} {framing : Framing} {parts : Parts}
    (parted : split payload framing = .ok parts) :
    Envelope.parse payload framing =
      (Envelope.parse parts.json .text).map (Envelope.withBinary parts.tail) := by
  have whole : split parts.json .text = .ok ⟨parts.json, []⟩ := rfl
  unfold Envelope.parse
  rw [parted, whole]
  dsimp only
  split
  · rfl
  · next value _ => cases Message.ofValue value <;> rfl

end Rpc

/-- The exchange in which a request is routed: its channel is open, and it is reported. -/
def Exchange.welcome (exchange : Exchange σ) (request : Request) : Exchange σ :=
  (exchange.enroll request).2.log (.dispatching request.client request.id request.method)

namespace Dispatcher

/-- What becomes of a payload once it is parsed: a rejection is sent, and a request is routed under
a key of its own. -/
def accept (dispatcher : Dispatcher σ) (client : ClientId)
    (parsed : Except Rpc.Rejection Rpc.Envelope) (manager : TaskManager σ)
    (exchange : Exchange σ) : TaskManager σ × Exchange σ :=
  match parsed with
  | .error rejection => (manager, reject client rejection.id rejection.error exchange)
  | .ok envelope =>
    let request : Request := ⟨client, envelope.message, envelope.binary⟩
    dispatcher.route exchange.channels.length request manager (exchange.welcome request)

variable (dispatcher : Dispatcher σ) (client : ClientId) (manager : TaskManager σ)
  (exchange : Exchange σ)

theorem dispatchEnvelope_eq (raw : RawRequest) :
    dispatcher.dispatchEnvelope raw manager exchange =
      dispatcher.accept raw.client (Rpc.Envelope.parse raw.payload raw.framing) manager
        exchange := by
  unfold dispatchEnvelope accept
  cases Rpc.Envelope.parse raw.payload raw.framing <;> rfl

theorem dispatchRequest_text (json : Bytes) :
    dispatcher.dispatchRequest ⟨client, json, .text⟩ manager exchange =
      dispatcher.accept client (Rpc.Envelope.parse json .text) manager exchange :=
  dispatcher.dispatchEnvelope_eq manager exchange ⟨client, json, .text⟩

/-- A frame with JSON text is split a second time when it is parsed, into the same parts. -/
theorem dispatchRequest_frame {payload : Bytes} {parts : Rpc.Parts}
    (split : Rpc.splitBinary payload = .ok parts) (carries : parts.json ≠ []) :
    dispatcher.dispatchRequest ⟨client, payload, .binary⟩ manager exchange =
      dispatcher.accept client
        ((Rpc.Envelope.parse parts.json .text).map (Rpc.Envelope.withBinary parts.tail)) manager
        exchange := by
  have request : parts.isRawChunk = false := by simpa [Rpc.Parts.isRawChunk] using carries
  have parsed := dispatcher.dispatchEnvelope_eq manager exchange ⟨client, payload, .binary⟩
  have parted : Rpc.split payload .binary = .ok parts := split
  rw [Rpc.Envelope.parse_of_split parted] at parsed
  simp only [dispatchRequest, split, request]
  exact parsed

/-- A binary payload splits exactly when its length field is whole and announces no more than there
is, and then it is made of its parts.  Made of any JSON text and tail it splits into these, it is
parsed as the text is apart from the tail, and it is dispatched as what it is parsed as. -/
theorem framing_is_transparent :
    (∀ payload, (∃ parts, Rpc.splitBinary payload = .ok parts) ↔
      4 ≤ payload.length ∧
        Bytes.ofLittleEndian (payload.take 4) ≤ (payload.drop 4).length) ∧
    (∀ payload parts, Rpc.splitBinary payload = .ok parts →
      payload = Bytes.lengthField parts.json.length ++ parts.json ++ parts.tail ∧
        parts.json.length < Bytes.lengthBound) ∧
    ∀ json tail : Bytes, json.length < Bytes.lengthBound →
      let payload := Bytes.lengthField json.length ++ json ++ tail
      let parsed := Rpc.Envelope.parse json .text
      Rpc.splitBinary payload = .ok ⟨json, tail⟩ ∧
        Rpc.Envelope.parse payload .binary = parsed.map (Rpc.Envelope.withBinary tail) ∧
        dispatcher.dispatchRequest ⟨client, json, .text⟩ manager exchange =
          dispatcher.accept client parsed manager exchange ∧
        (json ≠ [] →
          dispatcher.dispatchRequest ⟨client, payload, .binary⟩ manager exchange =
            dispatcher.accept client (parsed.map (Rpc.Envelope.withBinary tail)) manager
              exchange) := by
  refine ⟨Rpc.splitBinary_isOk, fun payload parts split => ?_, fun json tail fits => ?_⟩
  · exact Rpc.eq_join_of_splitBinary split
  · intro payload parsed
    have split : Rpc.splitBinary payload = .ok ⟨json, tail⟩ := Rpc.splitBinary_join tail fits
    have parted : Rpc.split payload .binary = .ok ⟨json, tail⟩ := split
    have same := Rpc.Envelope.parse_of_split parted
    exact ⟨split, same,
      dispatcher.dispatchRequest_text client manager exchange json,
      dispatcher.dispatchRequest_frame client manager exchange split⟩

/-- A frame without the rest of its JSON text does not split, and the request of an upload has the
tail of its frame. -/
theorem framing_is_transparent_upload :
    let json := (Rpc.Message.request "upload" .null (.integer 1)).text.toUTF8.toList
    let dispatcher : Dispatcher Unit := ⟨builtinRegistry, none⟩
    let exchange : Exchange Unit := .start () fun _ _ => none
    (¬∃ parts, Rpc.splitBinary [2, 0, 0, 0, 49] = .ok parts) ∧
      json.length < Bytes.lengthBound ∧ json ≠ [] ∧
      dispatcher.dispatchRequest
          ⟨⟨1⟩, Bytes.lengthField json.length ++ json ++ [0, 255], .binary⟩ .empty exchange =
        dispatcher.accept ⟨1⟩
          ((Rpc.Envelope.parse json .text).map (Rpc.Envelope.withBinary [0, 255])) .empty
          exchange := by
  intro json dispatcher exchange
  have transparent := framing_is_transparent dispatcher ⟨1⟩ .empty exchange
  have fits : json.length < Bytes.lengthBound := by decide +kernel
  have carries : json ≠ [] := by decide +kernel
  refine ⟨?_, fits, carries, (transparent.2.2 json [0, 255] fits).2.2.2 carries⟩
  rw [transparent.1]
  decide

end Dispatcher

end RpcDispatch
