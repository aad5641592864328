import RpcDispatch.Proofs.Delegate.Attendance
import RpcDispatch.Proofs.Dispatch.Answering

/-
This file shows that the dispatcher attends to the requests of a delegating method.  Every request
of the method becomes a task, and no other method answers for it.
-/

namespace RpcDispatch

namespace Delegate.Realm

variable {σ : Type} {delegate : Delegate σ} {realm : delegate.Realm} {dispatcher : Dispatcher σ}
  {withdrawn : List Key} {since : Key} {manager : TaskManager σ} {exchange after : Exchange σ}

/-- A method is served by its entrypoint, and all other scripts keep to their own requests. -/
structure Staffs (realm : delegate.Realm) (dispatcher : Dispatcher σ) : Prop where
  found : dispatcher.registry.find? delegate.method = some delegate.entrypoint
  named : delegate.method ∉ builtinMethods
  others : ∀ entrypoint ∈ dispatcher.registry.entrypoints,
    entrypoint = delegate.entrypoint ∨ realm.Avoids entrypoint
  consumer : ∀ consumer, dispatcher.consumer = some consumer →
    ∀ client bytes, realm.Spares (consumer client bytes)

/-- The keys of the method are those of its requests. -/
def Knows (realm : delegate.Realm) (requests : List Request) : Prop :=
  ∀ key request, requests[key]? = some request →
    (realm.mine key = true ↔ request.method = delegate.method)

theorem Knows.before {first second : List Request} (knows : realm.Knows (first ++ second)) :
    realm.Knows first := by
  intro key request found
  refine knows key request ?_
  rw [List.getElem?_append_left (List.getElem?_eq_some_iff.mp found).1]
  exact found

/-- The task manager attends to the requests of the method. -/
def Attended (realm : delegate.Realm) (withdrawn : List Key)
    (state : TaskManager σ × Exchange σ) : Prop :=
  ∃ queued pending, state.1 = ⟨queued.map .request, pending.map .request⟩ ∧
    realm.Attends withdrawn queued pending state.2

theorem Attended.calm (attended : realm.Attended withdrawn (manager, exchange)) :
    realm.Calm exchange := by
  obtain ⟨queued, pending, _, attends⟩ := attended
  exact attends.calm

theorem Attended.leave (attended : realm.Attended withdrawn (manager, exchange))
    (leaves : realm.Leaves exchange after) : realm.Attended withdrawn (manager, after) := by
  obtain ⟨queued, pending, same, attends⟩ := attended
  exact ⟨queued, pending, same, attends.leave leaves⟩

/-! ### Requests -/

theorem Staffs.handler (staffs : realm.Staffs dispatcher) {request : Request}
    (own : request.method = delegate.method) :
    dispatcher.handler? request = some delegate.entrypoint := by
  rw [Dispatcher.handler?, own, if_neg staffs.named, staffs.found]

/-- The handler of any other request avoids the requests of the method. -/
theorem Staffs.avoids (staffs : realm.Staffs dispatcher) {request : Request}
    {entrypoint : Entrypoint σ} (other : request.method ≠ delegate.method)
    (handled : dispatcher.handler? request = some entrypoint) : realm.Avoids entrypoint := by
  refine (staffs.others entrypoint (Dispatcher.handler?_mem handled)).resolve_left ?_
  rintro rfl
  unfold Dispatcher.handler? at handled
  split_ifs at handled
  have named := List.find?_some handled
  exact other (beq_iff_eq.mp named).symm

/-- A request without a handler is answered at once, and it is none of the method. -/
theorem Attended.answer (attended : realm.Attended withdrawn (manager, exchange)) {key : Key}
    {act : Act σ} (other : realm.mine key = false) (answers : act.Answers key) :
    realm.Attended withdrawn (manager, exchange.pause.perform act) := by
  have paused := attended.calm.pause
  exact attended.leave (paused.trans (paused.calm.perform (spares_answers answers other)))

/-- Routing a new request keeps the book of the method balanced. -/
theorem Attended.route (staffs : realm.Staffs dispatcher)
    (attended : realm.Attended withdrawn (manager, exchange))
    (keeps : dispatcher.Keeps since manager exchange) (request : Request) (notice : Log.Notice)
    (knows : realm.mine exchange.channels.length = true ↔ request.method = delegate.method) :
    realm.Attended withdrawn (dispatcher.route exchange.channels.length request manager
      ((exchange.enroll request).2.log notice)) := by
  obtain ⟨queued, pending, rfl, attends⟩ := attended
  have new : ∀ task ∈ queued ++ pending, task.key ≠ exchange.channels.length :=
    fun task member => Nat.ne_of_lt (keeps.held_lt task member)
  -- without a handler the request is not of the method
  have foreign (unhandled : dispatcher.handler? request = none) :
      realm.mine exchange.channels.length = false := by
    rw [Bool.eq_false_iff]
    intro own
    rw [staffs.handler (knows.mp own)] at unhandled
    cases unhandled
  have entered (other : realm.mine exchange.channels.length = false) :
      realm.Attends withdrawn queued pending ((exchange.enroll request).2.log notice) := by
    have leaves := attends.calm.enroll_other request other
    exact attends.leave (leaves.trans (leaves.calm.log notice))
  have step := dispatcher.route_step exchange.channels.length request
    ⟨queued.map .request, pending.map .request⟩ ((exchange.enroll request).2.log notice)
  generalize dispatcher.route exchange.channels.length request
    ⟨queued.map .request, pending.map .request⟩ ((exchange.enroll request).2.log notice) = result
    at step ⊢
  cases step with
  | answer unhandled reported same act answers =>
      have other := foreign unhandled
      have report : realm.Attended withdrawn
          (⟨queued.map .request, pending.map .request⟩, reported) := by
        refine ⟨queued, pending, rfl, ?_⟩
        rcases same with rfl | ⟨notice', rfl⟩
        · exact entered other
        · exact (entered other).leave ((entered other).calm.log notice')
      exact report.answer other answers
  | cancel unhandled id act answers =>
      have other := foreign unhandled
      obtain ⟨queued', pending', same, cancelled⟩ := (entered other).cancel request.client id
      have after : realm.Attended withdrawn _ := ⟨queued', pending', same, cancelled⟩
      exact after.answer other answers
  | task entrypoint handled =>
      by_cases own : request.method = delegate.method
      · rw [staffs.handler own] at handled
        cases handled
        have entered := attends.enter request (knows.mpr own) new
        exact (entered.leave (entered.calm.log notice)).add rfl
      · have other : realm.mine exchange.channels.length = false := by
          rw [Bool.eq_false_iff]
          exact fun mine => own (knows.mp mine)
        have joined : realm.Attends withdrawn
            (.create exchange.channels.length request entrypoint :: queued) pending
            ((exchange.enroll request).2.log notice) :=
          (entered other).join other (staffs.avoids own handled) new
        exact joined.add rfl

/-! ### Frames -/

/-- A chunk is no concern of the method. -/
theorem Attended.chunk (staffs : realm.Staffs dispatcher)
    (attended : realm.Attended withdrawn (manager, exchange)) (client : ClientId) (bytes : Bytes) :
    realm.Attended withdrawn (dispatcher.dispatchChunk client bytes manager exchange) := by
  unfold Dispatcher.dispatchChunk
  split
  · exact attended.leave (attended.calm.log _)
  · next consumer found =>
      rw [TaskManager.add_chunk]
      refine attended.leave ?_
      have logged := attended.calm.log (.runningPriority client "binary")
      have began := logged.trans (logged.calm.chunk client bytes)
      have called := began.trans (staffs.consumer consumer found client bytes _ began.calm)
      have ran : realm.Leaves exchange (ChunkTask.run ⟨client, bytes, consumer⟩
          (exchange.log (.runningPriority client "binary"))) := by
        unfold ChunkTask.run Exchange.callConsumer
        dsimp only
        split
        · next after result =>
            rw [result] at called
            exact called
        · next error after result =>
            rw [result] at called
            exact called.trans (called.calm.log _)
      exact ran.trans ran.calm.pause

theorem Attended.dispatchRequest (staffs : realm.Staffs dispatcher)
    (attended : realm.Attended withdrawn (manager, exchange))
    (keeps : dispatcher.Keeps since manager exchange) (raw : RawRequest)
    (knows : realm.Knows (dispatcher.dispatchRequest raw manager exchange).2.requests) :
    realm.Attended withdrawn (dispatcher.dispatchRequest raw manager exchange) := by
  rw [keeps.dispatchRequest_requests] at knows
  have step := dispatcher.dispatchRequest_step raw manager exchange
  generalize dispatcher.dispatchRequest raw manager exchange = result at step ⊢
  cases step with
  | request request accepted notice =>
      refine attended.route staffs keeps request notice (knows _ _ ?_)
      simp [accepted, ← exchange.length_requests]
  | reject refused id error => exact attended.leave (attended.calm.reject raw.client id error)
  | chunk refused bytes => exact attended.chunk staffs raw.client bytes

/-- Routing a list of frames keeps the book of the method balanced. -/
theorem Attended.routeAll (staffs : realm.Staffs dispatcher)
    (attended : realm.Attended withdrawn (manager, exchange))
    (keeps : dispatcher.Keeps since manager exchange) (raws : List RawRequest)
    (knows : realm.Knows (dispatcher.routeAll raws (manager, exchange)).2.requests) :
    realm.Attended withdrawn (dispatcher.routeAll raws (manager, exchange)) := by
  induction raws generalizing manager exchange with
  | nil => exact attended
  | cons raw raws ih =>
      have kept := keeps.dispatchRequest raw
      have first := knows
      rw [show dispatcher.routeAll (raw :: raws) (manager, exchange) =
        dispatcher.routeAll raws (dispatcher.dispatchRequest raw manager exchange) from rfl,
        kept.routeAll_requests] at first
      exact ih (attended.dispatchRequest staffs keeps raw first.before) kept knows

end Delegate.Realm

end RpcDispatch
