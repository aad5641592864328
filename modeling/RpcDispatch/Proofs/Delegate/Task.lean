import RpcDispatch.Proofs.Delegate.Book
import RpcDispatch.Proofs.Dispatch.Routing

/-
This file says what the service and its tasks do to the book of a delegating method.  Only the tasks
of the method turn its book.
-/

namespace RpcDispatch

variable {σ : Type}

/-! ### What the tasks of a method do -/

namespace Book

/-- A request is answered as cancelled before it was started. -/
def withdraw (key : Key) (book : Book) : Book :=
  book.answer key fun id => Rpc.errorText id .taskCancelled

/-- A request is started. -/
def launch (delegate : Delegate σ) (key : Key) (request : Request) (book : Book) : Book :=
  ((book.call (.request key)).assign key request).operate delegate
    (.start (delegate.body key request))

/-- The job is asked to stop on behalf of a request. -/
def halt (delegate : Delegate σ) (key : Key) (book : Book) : Book :=
  (book.call (.cancel key)).operate delegate .cancel

/-- The job is polled. -/
def update (delegate : Delegate σ) (book : Book) : Book :=
  (book.call .update).operate delegate .poll

end Book

namespace Delegate.Realm

variable {delegate : Delegate σ} {realm : delegate.Realm} {exchange : Exchange σ}
  {task : RequestTask σ} {key : Key}

/-! ### The service -/

/-- A hook of the method that is called is listed. -/
theorem Calm.called (calm : realm.Calm exchange) (hook : Hook) :
    realm.Yields (Book.call hook) exchange (exchange.record (.called delegate.method hook)) := by
  refine ⟨⟨calm.valid, calm.spared⟩, ?_⟩
  unfold book Book.call
  congr 1
  · funext asked
    simp only [Exchange.answersTo, Exchange.record_called_deliveries]
  · rw [exchange.callsOf_record]
    simp [Event.hookOf?]

/-- A hook of another method is not. -/
theorem Calm.called_other (calm : realm.Calm exchange) {method : String}
    (other : method ≠ delegate.method) (hook : Hook) :
    realm.Leaves exchange (exchange.record (.called method hook)) := by
  refine calm.still rfl rfl rfl (fun asked => by simp [Exchange.answersTo]) ?_
  rw [exchange.callsOf_record]
  simp [Event.hookOf?, other]

theorem Calm.chunk (calm : realm.Calm exchange) (client : ClientId) (bytes : Bytes) :
    realm.Leaves exchange (exchange.record (.chunk client bytes)) := by
  refine calm.still rfl rfl rfl (fun asked => by simp [Exchange.answersTo]) ?_
  rw [exchange.callsOf_record]
  exact List.append_nil _

/-- A text that is no answer. -/
theorem Calm.attempt (calm : realm.Calm exchange) (client : ClientId) (text : String) :
    realm.Leaves exchange (exchange.attempt client text).2 :=
  calm.still rfl rfl rfl (fun asked => by simp [Exchange.answersTo])
    (Exchange.callsOf_same (List.prefix_append ..) (exchange.attempt_calls client text .direct) _)

/-- Answering a request of another method leaves the book. -/
theorem spares_answers {act : Act σ} (answers : act.Answers key)
    (other : realm.mine key = false) : realm.SparedBy act := by
  have absent (exchange : Exchange σ) (encode : Rpc.Id → String) :
      (realm.book exchange).answer key encode = realm.book exchange :=
    Book.answer_absent (book_foreign other).1 encode
  intro exchange valid
  rcases answers with ⟨result, rfl⟩ | ⟨error, rfl⟩
  · obtain ⟨stays, turned⟩ := realm.acts_reply key result exchange valid
    exact ⟨stays, turned.trans (absent exchange _)⟩
  · obtain ⟨stays, turned⟩ := realm.acts_error key error exchange valid
    exact ⟨stays, turned.trans (absent exchange _)⟩

/-- A new request of the method is entered in its book. -/
theorem Calm.enroll (calm : realm.Calm exchange) (request : Request)
    (own : realm.mine exchange.channels.length = true) :
    realm.Yields (Book.enter exchange.channels.length request) exchange
      (exchange.enroll request).2 := by
  refine ⟨⟨calm.valid, calm.spared⟩, ?_⟩
  unfold book Book.enter
  congr 1
  funext asked
  rw [Exchange.enroll_channel?]
  by_cases new : asked = exchange.channels.length
  · rw [if_pos new, new, if_pos own, Function.update_self]
  · rw [if_neg new, Function.update_of_ne new]

/-- A new request of another method is not. -/
theorem Calm.enroll_other (calm : realm.Calm exchange) (request : Request)
    (other : realm.mine exchange.channels.length = false) :
    realm.Leaves exchange (exchange.enroll request).2 := by
  refine ⟨⟨calm.valid, calm.spared⟩, book_congr rfl (fun asked yours => ?_) (fun _ _ => rfl) rfl⟩
  have apart : asked ≠ exchange.channels.length := fun same => by simp [same, other] at yours
  rw [Exchange.enroll_channel?, if_neg apart]

/-- Rejecting a payload is no concern of the method. -/
theorem Calm.reject (calm : realm.Calm exchange) (client : ClientId) (id : Rpc.Id)
    (error : Rpc.Error) : realm.Leaves exchange (Dispatcher.reject client id error exchange) := by
  have reported := calm.log (.rejected client id error)
  have paused := reported.trans reported.calm.pause
  have sent := paused.trans (paused.calm.attempt client (Rpc.errorText id error))
  unfold Dispatcher.reject
  dsimp only
  split
  · next after result =>
      rw [result] at sent
      exact sent
  · next fault after result =>
      rw [result] at sent
      exact sent.trans (sent.calm.log _)

/-! ### Tasks of other methods -/

/-- The scripts of another method leave the book as it is. -/
structure Avoids (realm : delegate.Realm) (entrypoint : Entrypoint σ) : Prop where
  method : entrypoint.method ≠ delegate.method
  onRequest : ∀ key request, realm.mine key = false →
    realm.Spares (entrypoint.onRequest key request)
  onCancel : realm.Spares entrypoint.onCancel
  onUpdate : realm.Spares entrypoint.onUpdate

theorem Avoids.run (avoids : realm.Avoids task.entrypoint) (other : realm.mine task.key = false)
    (calm : realm.Calm exchange) : realm.Leaves exchange (task.run exchange).2 := by
  have failing (error : Rpc.Error) : realm.SparedBy (.error task.key error) :=
    spares_answers (.inr ⟨error, rfl⟩) other
  unfold RequestTask.run
  dsimp only
  split_ifs
  · exact calm.log _
  · exact calm.pause.trans (calm.pause.calm.perform (failing .taskCancelled))
  · exact calm.refl
  · have logged := calm.log
      (.taskRunning task.request.client task.request.id task.request.method)
    have began := logged.trans (logged.calm.called_other avoids.method (.request task.key))
    have called := began.trans (avoids.onRequest task.key task.request other _ began.calm)
    unfold RequestTask.invoke
    dsimp only
    split
    · exact called
    · next error _ =>
        have reported := called.trans (called.calm.log
          (.taskFailed task.request.client task.request.id task.request.method error))
        have paused := reported.trans reported.calm.pause
        exact paused.trans (paused.calm.perform (failing error))

theorem Avoids.cancel (avoids : realm.Avoids task.entrypoint) (calm : realm.Calm exchange) :
    realm.Leaves exchange (task.cancel exchange).2.2 := by
  unfold RequestTask.cancel
  dsimp only
  split_ifs
  · exact calm.refl
  · exact calm.refl
  · have called := calm.called_other avoids.method (.cancel task.key)
    exact called.trans (avoids.onCancel _ called.calm)
  · exact calm.refl

theorem Avoids.update {entrypoint : Entrypoint σ} (avoids : realm.Avoids entrypoint)
    (calm : realm.Calm exchange) : realm.Leaves exchange (exchange.callUpdate entrypoint) := by
  have called := calm.called_other avoids.method .update
  exact called.trans (avoids.onUpdate _ called.calm)

/-! ### Tasks of the method -/

/-- A task of the method that was cancelled before it ran withdraws its request. -/
theorem Calm.run_cancelled (calm : realm.Calm exchange) (stays : task.disconnected = false)
    (cancelled : task.cancelled = true) :
    (task.run exchange).1 = task ∧
      realm.Yields (Book.withdraw task.key) exchange (task.run exchange).2 := by
  have ran : task.run exchange =
      (task, exchange.pause.perform (.error task.key .taskCancelled)) := by
    simp [RequestTask.run, stays, cancelled, Exchange.perform]
  rw [ran]
  exact ⟨rfl, calm.pause.trans (calm.pause.calm.perform (realm.acts_error task.key .taskCancelled))⟩

/-- Any other task of the method launches the run of its request. -/
theorem Calm.run_fresh (calm : realm.Calm exchange)
    (entrypoint : task.entrypoint = delegate.entrypoint) (fresh : ¬ task.IsSpent) :
    realm.Yields (Book.launch delegate task.key task.request) exchange (task.run exchange).2 := by
  have logged := calm.log (.taskRunning task.request.client task.request.id task.request.method)
  have began := logged.trans (logged.calm.called (.request task.key))
  have called := began.trans (realm.turns_handle task.key task.request _ began.calm)
  rw [task.run_eq_invoke exchange fresh]
  unfold RequestTask.invoke Exchange.callRequest
  rw [entrypoint, show delegate.entrypoint.onRequest = delegate.handle from rfl]
  dsimp only
  rw [delegate.handle_success]
  exact called

/-- A task of the method that has run asks its job to stop, once. -/
theorem Calm.cancel_running (calm : realm.Calm exchange)
    (entrypoint : task.entrypoint = delegate.entrypoint) (running : task.running = true)
    (first : task.cancelled = false) :
    (task.cancel exchange).2.1 = { task with cancelled := true } ∧
      realm.Yields (Book.halt delegate task.key) exchange (task.cancel exchange).2.2 := by
  have asked : task.cancel exchange = (.ok (), { task with cancelled := true },
      exchange.callCancel task.entrypoint task.key) := by
    simp [RequestTask.cancel, entrypoint, Delegate.entrypoint, running, first]
  have called := calm.called (.cancel task.key)
  rw [asked]
  refine ⟨rfl, ?_⟩
  rw [entrypoint]
  exact called.trans (realm.turns_operate (fun job => rfl) _ called.calm)

/-- Updating the method polls its job. -/
theorem Calm.update (calm : realm.Calm exchange) :
    realm.Yields (Book.update delegate) exchange (exchange.callUpdate delegate.entrypoint) := by
  have called := calm.called .update
  exact called.trans (realm.turns_operate (fun job => rfl) _ called.calm)

end Delegate.Realm

end RpcDispatch
