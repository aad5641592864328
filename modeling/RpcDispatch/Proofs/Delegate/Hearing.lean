import RpcDispatch.Proofs.Delegate.Book

/-
This file says what becomes of the book of a delegating method when it hears of its job.  Only the
outcome of a run answers a request, and it answers the request of that run.
-/

namespace RpcDispatch

variable {σ : Type}

/-! ### Outcomes -/

/-- The text that a request is answered with when the outcome of its run is heard. -/
def Delegate.textOf (delegate : Delegate σ) (key : Key) (request : Request) :
    Signal → Option String
  | .completed => some (resultText (delegate.result key request) request.id)
  | .failed error => some (Rpc.errorText request.id error)
  | _ => none

/-- Every ending is heard as an outcome. -/
theorem Ending.outcome_isOutcome (ending : Ending) (cancelled : Bool) :
    (ending.outcome cancelled).isOutcome = true := by
  unfold outcome
  cases cancelled with
  | true => rfl
  | false => cases ending <;> rfl

/-! ### Hearing -/

namespace Book

variable {delegate : Delegate σ} {book : Book} {key : Key} {request : Request}

/-- The book after all that is known of one request has changed. -/
def set (book : Book) (key : Key) (channel : Channel) (answers : List Delivery) : Book :=
  { book with
    channels := Function.update book.channels key (some channel)
    answers := Function.update book.answers key answers }

theorem set_self {channel : Channel} {answers : List Delivery}
    (found : book.channels key = some channel) (sent : book.answers key = answers) :
    book.set key channel answers = book := by
  rw [set, ← found, ← sent, Function.update_eq_self, Function.update_eq_self]

/-- The answer to an open request. -/
theorem answer_open (found : book.channels key = some (.open request))
    (encode : Rpc.Id → String) :
    book.answer key encode = book.set key ⟨request, !request.isNotification, false⟩
      (book.answers key ++
        if request.isNotification then []
        else [⟨.answer key, request.client, encode request.id⟩]) := by
  rw [answer, found, set]
  cases notified : request.isNotification <;> simp [Channel.answer, Channel.open, notified]

/-- Only decisive signals change the book. -/
theorem hearAll_decisive (delegate : Delegate σ) (book : Book) (signals : List Signal) :
    book.hearAll delegate signals = book.hearAll delegate (decisive signals) := by
  induction signals generalizing book with
  | nil => rfl
  | cons signal signals ih =>
      cases signal with
      | started => exact ih _
      | completed => exact ih _
      | failed error => exact ih _
      | progressed operation amount => exact ih _
      | cancelRequested => exact ih _
      | told value => exact ih _
      | reported notice => exact ih _

/-- An outcome answers the request of the current run. -/
theorem hear_outcome (delegate : Delegate σ)
    (active : book.desk.active = some (key, request)) {signal : Signal}
    (outcome : signal.isOutcome = true) :
    ∃ encode, book.hear delegate signal = book.answer key encode ∧
      delegate.textOf key request signal = some (encode request.id) := by
  cases signal with
  | completed => exact ⟨_, by rw [hear, answerActive, active], rfl⟩
  | failed error => exact ⟨_, by rw [hear, answerActive, active], rfl⟩
  | _ => cases outcome

@[simp] theorem hearAll_append (delegate : Delegate σ) (book : Book) (first second : List Signal) :
    book.hearAll delegate (first ++ second) =
      (book.hearAll delegate first).hearAll delegate second :=
  List.foldl_append

/-- A start gives up the run before it. -/
theorem hearAll_start (delegate : Delegate σ) (book : Book) (job : Job) (body : Body) :
    book.hearAll delegate (job.start body).1 =
      (book.hearAll delegate job.drop).hear delegate .started := by
  have heard := congrArg decisive (Job.callbacks_start job body)
  rw [decisive_callbacks, decisive_append, decisive_callbacks] at heard
  rw [hearAll_decisive, heard, hearAll_append, hearAll_decisive delegate book job.drop]
  rfl

/-! ### The rest of the book -/

/-- What is known of one request is the same in both books. -/
def SameAt (key : Key) (before after : Book) : Prop :=
  after.channels key = before.channels key ∧ after.answers key = before.answers key

/-- An answer leaves the desk, the calls and all other requests. -/
theorem answer_frame (book : Book) (key : Key) (encode : Rpc.Id → String) :
    (book.answer key encode).desk = book.desk ∧ (book.answer key encode).calls = book.calls ∧
      ∀ other, other ≠ key → book.SameAt other (book.answer key encode) := by
  unfold answer
  split
  · exact ⟨rfl, rfl, fun other _ => ⟨rfl, rfl⟩⟩
  · exact ⟨rfl, rfl, fun other apart =>
      ⟨Function.update_of_ne apart .., Function.update_of_ne apart ..⟩⟩

/-- Answering the active request leaves the desk. -/
theorem answerActive_desk (book : Book) (encode : Key → Request → Rpc.Id → String) :
    (book.answerActive encode).desk = book.desk := by
  unfold answerActive
  split
  · rfl
  · exact (book.answer_frame _ _).1

/-- Hearing a signal changes nothing of a request that the current run is not for. -/
theorem hear_frame (delegate : Delegate σ) (book : Book) (signal : Signal) :
    (book.hear delegate signal).calls = book.calls ∧
      ∀ other, (∀ run ∈ book.desk.active, run.1 ≠ other) →
        book.SameAt other (book.hear delegate signal) := by
  have active (encode : Key → Request → Rpc.Id → String) :
      (book.answerActive encode).calls = book.calls ∧
        ∀ other, (∀ run ∈ book.desk.active, run.1 ≠ other) →
          book.SameAt other (book.answerActive encode) := by
    unfold answerActive
    split
    · exact ⟨rfl, fun other _ => ⟨rfl, rfl⟩⟩
    · next key request found =>
        obtain ⟨_, calls, others⟩ := book.answer_frame key (encode key request)
        exact ⟨calls, fun other apart => others other (apart _ found).symm⟩
  cases signal with
  | completed => exact active _
  | failed error => exact active _
  | _ => exact ⟨rfl, fun other _ => ⟨rfl, rfl⟩⟩

/-- The requests that the desk names change at most from the next one to the active one. -/
theorem hear_desk (delegate : Delegate σ) (book : Book) (signal : Signal) :
    ∀ run, run ∈ (book.hear delegate signal).desk.active ∨
      run ∈ (book.hear delegate signal).desk.next →
        run ∈ book.desk.active ∨ run ∈ book.desk.next := by
  have active (encode : Key → Request → Rpc.Id → String) :
      (book.answerActive encode).desk = book.desk := book.answerActive_desk encode
  intro run named
  cases signal with
  | started => exact .inr (by simpa [hear] using named)
  | completed => simpa only [hear, active] using named
  | failed error => simpa only [hear, active] using named
  | _ => exact named

/-- Signals leave the calls, and the requests that are neither active nor next. -/
theorem hearAll_frame (delegate : Delegate σ) (book : Book) (signals : List Signal) :
    (book.hearAll delegate signals).calls = book.calls ∧
      ∀ other, (∀ run, run ∈ book.desk.active ∨ run ∈ book.desk.next → run.1 ≠ other) →
        book.SameAt other (book.hearAll delegate signals) := by
  induction signals generalizing book with
  | nil => exact ⟨rfl, fun other _ => ⟨rfl, rfl⟩⟩
  | cons signal signals ih =>
      obtain ⟨calls, others⟩ := book.hear_frame delegate signal
      obtain ⟨calls', others'⟩ := ih (book.hear delegate signal)
      refine ⟨calls'.trans calls, fun other apart => ?_⟩
      obtain ⟨channel, answers⟩ := others other fun run named => apart run (.inl named)
      obtain ⟨channel', answers'⟩ := others' other fun run named =>
        apart run (book.hear_desk delegate signal run named)
      exact ⟨channel'.trans channel, answers'.trans answers⟩

/-- An operation leaves the calls, and the requests that are neither active nor next. -/
theorem operate_frame (delegate : Delegate σ) (move : Job.Move) (book : Book) :
    (book.operate delegate move).calls = book.calls ∧
      ∀ other, (∀ run, run ∈ book.desk.active ∨ run ∈ book.desk.next → run.1 ≠ other) →
        book.SameAt other (book.operate delegate move) :=
  hearAll_frame delegate _ _

/-- The job does not depend on what is heard of it. -/
theorem hearAll_job (delegate : Delegate σ) (book : Book) (signals : List Signal) :
    (book.hearAll delegate signals).desk.job = book.desk.job ∧
      (book.hearAll delegate signals).desk.schedule = book.desk.schedule := by
  induction signals generalizing book with
  | nil => exact ⟨rfl, rfl⟩
  | cons signal signals ih =>
      have active (encode : Key → Request → Rpc.Id → String) :
          (book.answerActive encode).desk = book.desk := book.answerActive_desk encode
      obtain ⟨job, schedule⟩ := ih (book.hear delegate signal)
      refine ⟨job.trans ?_, schedule.trans ?_⟩ <;> cases signal <;>
        simp only [hear, active]

/-- An operation leaves the job of its turn and takes one part of the schedule. -/
theorem operate_job (delegate : Delegate σ) (move : Job.Move) (book : Book) :
    (book.operate delegate move).desk.job = (book.turn move).2 ∧
      (book.operate delegate move).desk.schedule = book.desk.schedule.tail :=
  hearAll_job delegate _ _

end Book

end RpcDispatch
