import RpcDispatch.Proofs.Dispatch.Order
import RpcDispatch.Proofs.Dispatch.Routing
import RpcDispatch.Proofs.Task.Faults

/-
This file shows that the dispatcher does the same whether or not texts arrive.
-/

namespace RpcDispatch.Dispatcher

open Exchange (Matches Agree)

variable {σ : Type} {first second : Exchange σ}

/-- A rejection is attempted in the same way, and at most the report on its fate differs. -/
theorem reject_matches (client : ClientId) (id : Rpc.Id) (error : Rpc.Error)
    (alike : first.Matches second) :
    (reject client id error first).Matches (reject client id error second) :=
  (alike.log _).pause.deliver client (Rpc.errorText id error) .direct
    (.rejectionUndelivered client) fun _ => rfl

/-- A chunk is dropped or given to the consumer in both exchanges. -/
theorem dispatchChunk_agrees (dispatcher : Dispatcher σ) (client : ClientId) (bytes : Bytes)
    (manager : TaskManager σ) (alike : first.Matches second) :
    Agree (dispatcher.dispatchChunk client bytes manager first)
      (dispatcher.dispatchChunk client bytes manager second) := by
  unfold dispatchChunk
  split
  · exact ⟨rfl, alike.log _⟩
  · exact manager.add_agrees _ alike

/-- The outcome of a cancellation is answered in the same way. -/
theorem conclude_matches (key : Key) (outcome : Except Rpc.Error Unit)
    (alike : first.Matches second) :
    (conclude key outcome first).Matches (conclude key outcome second) := by
  cases outcome with
  | ok => exact alike.pause.reply key (.ok .null)
  | error error => exact alike.pause.error key error

/-- A request to cancel leaves the same tasks and is answered in the same way. -/
theorem cancel_agrees (key : Key) (request : Request) (manager : TaskManager σ)
    (alike : first.Matches second) :
    Agree (cancel key request manager first) (cancel key request manager second) := by
  rw [cancel_eq, cancel_eq]
  split
  · next shape _ =>
      exact ⟨rfl, conclude_matches key (.error (.invalidParams shape.message [])) alike⟩
  · next params _ =>
      have cancelled := manager.cancel_agrees request.client params.id alike
      generalize manager.cancel request.client params.id first = left at cancelled ⊢
      generalize manager.cancel request.client params.id second = right at cancelled ⊢
      obtain ⟨outcome, kept, left⟩ := left
      obtain ⟨_, _, right⟩ := right
      obtain ⟨rfl, rfl, later⟩ := cancelled
      exact ⟨rfl, conclude_matches key outcome later⟩

/-- A request takes the same route. -/
theorem route_agrees (dispatcher : Dispatcher σ) (key : Key) (request : Request)
    (manager : TaskManager σ) (alike : first.Matches second) :
    Agree (dispatcher.route key request manager first)
      (dispatcher.route key request manager second) := by
  unfold route
  split_ifs
  · exact cancel_agrees key request manager alike
  · exact ⟨rfl, alike.pause.reply key
      (.ok (.array (dispatcher.methodNames.map Json.Value.string)))⟩
  · split
    · exact manager.add_agrees _ alike
    · exact ⟨rfl, (alike.log _).pause.error key _⟩

/-- A payload is parsed without regard to texts, so that it is enrolled under the same key. -/
theorem dispatchEnvelope_agrees (dispatcher : Dispatcher σ) (raw : RawRequest)
    (manager : TaskManager σ) (alike : first.Matches second) :
    Agree (dispatcher.dispatchEnvelope raw manager first)
      (dispatcher.dispatchEnvelope raw manager second) := by
  unfold dispatchEnvelope
  split
  · exact ⟨rfl, reject_matches raw.client _ _ alike⟩
  · next envelope _ =>
      have enrolled := alike.enroll ⟨raw.client, envelope.message, envelope.binary⟩
      have key : first.channels.length = second.channels.length := enrolled.result
      show Agree (dispatcher.route first.channels.length _ manager _)
        (dispatcher.route second.channels.length _ manager _)
      rw [← key]
      exact dispatcher.route_agrees _ _ manager (enrolled.exchange.log _)

/-- Whatever a frame is taken for, it is handled in the same way. -/
theorem dispatchRequest_agrees (dispatcher : Dispatcher σ) (raw : RawRequest)
    (manager : TaskManager σ) (alike : first.Matches second) :
    Agree (dispatcher.dispatchRequest raw manager first)
      (dispatcher.dispatchRequest raw manager second) := by
  unfold dispatchRequest
  split
  · exact dispatcher.dispatchEnvelope_agrees raw manager alike
  · split
    · exact ⟨rfl, reject_matches raw.client .absent _ alike⟩
    · split_ifs
      · exact dispatcher.dispatchChunk_agrees raw.client _ manager alike
      · exact dispatcher.dispatchEnvelope_agrees raw manager alike

/-- Every event is handled in the same way. -/
theorem handle_agrees (dispatcher : Dispatcher σ) {left right : TaskManager σ × Exchange σ}
    (agree : Agree left right) (arrival : Arrival) :
    Agree (dispatcher.handle left arrival) (dispatcher.handle right arrival) := by
  obtain ⟨manager, first⟩ := left
  obtain ⟨_, second⟩ := right
  obtain ⟨rfl, alike⟩ := agree
  cases arrival with
  | connection client => exact ⟨rfl, alike.log _⟩
  | request raw => exact dispatcher.dispatchRequest_agrees raw manager alike
  | disconnection client => exact manager.disconnect_agrees client (alike.log _)

/-- Any events in a row are handled in the same way. -/
theorem handleAll_agrees (dispatcher : Dispatcher σ) {left right : TaskManager σ × Exchange σ}
    (agree : Agree left right) (arrivals : List Arrival) :
    Agree (arrivals.foldl dispatcher.handle left) (arrivals.foldl dispatcher.handle right) := by
  induction arrivals generalizing left right with
  | nil => exact agree
  | cons arrival arrivals ih => exact ih (dispatcher.handle_agrees agree arrival)

end RpcDispatch.Dispatcher
