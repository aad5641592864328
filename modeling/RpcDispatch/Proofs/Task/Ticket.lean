import RpcDispatch.Proofs.Exchange.Locality
import RpcDispatch.Proofs.Task.Lists

/-
This file says what a client can tell of one of its tasks.  A ticket has no key, because keys count
the requests of all clients; what running, cancelling and disconnecting do to a ticket can be said
without the rest of the exchange.
-/

namespace RpcDispatch

open Exchange (Still Turn)

variable {σ : Type}

/-- A task together with the channel of its request. -/
structure Ticket (σ : Type) where
  entrypoint : Entrypoint σ
  running : Bool
  cancelled : Bool
  disconnected : Bool
  channel : Channel

namespace Ticket

def isPending (ticket : Ticket σ) : Bool :=
  ticket.running && !ticket.disconnected && ticket.entrypoint.isAsync
    && !ticket.channel.request.isNotification && !ticket.channel.answered

/-- A ticket whose request is answered, and the text of the answer. -/
def answer (ticket : Ticket σ) (encode : Rpc.Id → String) : Ticket σ × List String :=
  ({ ticket with channel := (ticket.channel.answer encode).1 }, (ticket.channel.answer encode).2)

/-- The ticket after the request hook has done its deed, with the texts of the deed and of the
failure. -/
def invoke (deed : Request → Deed) (ticket : Ticket σ) : Ticket σ × List String :=
  let request := ticket.channel.request
  let done := deed request
  let ran := { ticket with running := true, channel := ⟨request, done.answered, done.closed⟩ }
  match done.outcome.error? with
  | none => (ran, done.texts)
  | some error =>
    let (failed, texts) := ran.answer fun id => Rpc.errorText id error
    (failed, done.texts ++ texts)

def run (deeds : Entrypoint σ → Request → Deed) (ticket : Ticket σ) : Ticket σ × List String :=
  if ticket.disconnected then (ticket, [])
  else if ticket.cancelled then ticket.answer fun id => Rpc.errorText id .taskCancelled
  else if ticket.running then (ticket, [])
  else ticket.invoke (deeds ticket.entrypoint)

def cancel (ticket : Ticket σ) : Except Rpc.Error Unit × Ticket σ :=
  let request := ticket.channel.request
  if !ticket.entrypoint.isAsync then
    (.error (.invalidParams s!"Method '{request.method}' cannot be cancelled" []), ticket)
  else if ticket.cancelled then
    (.error (.invalidParams s!"Task {request.id.display} is already cancelled" []), ticket)
  else (.ok (), { ticket with cancelled := true })

def disconnect (ticket : Ticket σ) : Ticket σ :=
  if ticket.disconnected then ticket
  else { ticket with disconnected := true, channel := { ticket.channel with closed := true } }

/-- Nothing has happened to the request of the ticket, unless its client has left. -/
def IsFresh (ticket : Ticket σ) : Prop :=
  ticket.disconnected = false → ticket.channel = .open ticket.channel.request

end Ticket

namespace RequestTask

variable {task : RequestTask σ} {before after exchange : Exchange σ} {channel : Channel}
  {texts : List String}

/-- The task as its client can tell. -/
def ticket (exchange : Exchange σ) (task : RequestTask σ) : Ticket σ :=
  ⟨task.entrypoint, task.running, task.cancelled, task.disconnected,
    (exchange.channel? task.key).getD (.open task.request)⟩

@[simp] theorem ticket_entrypoint (exchange : Exchange σ) (task : RequestTask σ) :
    (task.ticket exchange).entrypoint = task.entrypoint := rfl

@[simp] theorem ticket_running (exchange : Exchange σ) (task : RequestTask σ) :
    (task.ticket exchange).running = task.running := rfl

@[simp] theorem ticket_cancelled (exchange : Exchange σ) (task : RequestTask σ) :
    (task.ticket exchange).cancelled = task.cancelled := rfl

@[simp] theorem ticket_disconnected (exchange : Exchange σ) (task : RequestTask σ) :
    (task.ticket exchange).disconnected = task.disconnected := rfl

/-- The channel of the task belongs to its request. -/
def IsEnrolled (exchange : Exchange σ) (task : RequestTask σ) : Prop :=
  ∃ channel, exchange.channel? task.key = some channel ∧ channel.request = task.request

/-- An enrolled task has the channel of its ticket. -/
theorem IsEnrolled.found (enrolled : task.IsEnrolled exchange) :
    exchange.channel? task.key = some (task.ticket exchange).channel := by
  obtain ⟨channel, found, _⟩ := enrolled
  simp [ticket, found]

@[simp] theorem IsEnrolled.request (enrolled : task.IsEnrolled exchange) :
    (task.ticket exchange).channel.request = task.request := by
  obtain ⟨channel, found, same⟩ := enrolled
  simp [ticket, found, same]

/-- The key of an enrolled task is in use. -/
theorem IsEnrolled.lt (enrolled : task.IsEnrolled exchange) :
    task.key < exchange.channels.length := by
  obtain ⟨channel, found, _⟩ := enrolled
  exact (List.getElem?_eq_some_iff.mp found).1

/-- The ticket of a task depends on its channel only. -/
theorem ticket_of_channel? (same : after.channel? task.key = before.channel? task.key) :
    task.ticket after = task.ticket before := by
  rw [ticket, ticket, same]

/-- A task stays enrolled while its channel is the same. -/
theorem IsEnrolled.of_channel? (enrolled : task.IsEnrolled before)
    (same : after.channel? task.key = before.channel? task.key) : task.IsEnrolled after := by
  rw [IsEnrolled, same]
  exact enrolled

/-- When its channel changes, so does the ticket. -/
theorem ticket_turn (turn : Turn task.key channel texts before after)
    (enrolled : task.IsEnrolled before) :
    task.ticket after = { task.ticket before with channel } := by
  simp [ticket, turn.own enrolled.lt]

/-- An enrolled task is pending when its ticket is. -/
theorem isPending_ticket (enrolled : task.IsEnrolled exchange) :
    task.isPending exchange = (task.ticket exchange).isPending := by
  rw [isPending, Ticket.isPending, enrolled.request, isAnswered, enrolled.found]
  rfl

/-- What an operation did: it was a turn for the request of the task, which now has the given
ticket, and its client was sent the given texts. -/
structure Becomes (before : Exchange σ) (task : RequestTask σ)
    (result : RequestTask σ × Exchange σ) (next : Ticket σ × List String) : Prop where
  same : result.1.Same task
  turn : Turn task.key next.1.channel next.2 before result.2
  ticket : result.1.ticket result.2 = next.1
  request : next.1.channel.request = task.request

/-- What an enrolled task becomes is enrolled. -/
theorem Becomes.enrolled {result : RequestTask σ × Exchange σ} {next : Ticket σ × List String}
    (becomes : Becomes before task result next) (enrolled : task.IsEnrolled before) :
    result.1.IsEnrolled result.2 := by
  refine ⟨next.1.channel, ?_, becomes.request.trans becomes.same.request.symm⟩
  rw [becomes.same.key]
  exact becomes.turn.own enrolled.lt

/-- One operation after another. -/
theorem Becomes.trans {middle last : RequestTask σ × Exchange σ}
    {next final : Ticket σ × List String} (first : Becomes before task middle next)
    (second : Becomes middle.2 middle.1 last final) :
    Becomes before task last (final.1, next.2 ++ final.2) := by
  have key := first.same.key
  have turn := second.turn
  rw [key] at turn
  refine ⟨second.same.trans first.same, first.turn.trans turn ?_, second.ticket, ?_⟩
  · rw [second.request, first.same.request, first.request]
  · exact second.request.trans first.same.request

/-- An answer to the request of a task. -/
theorem error_becomes (enrolled : task.IsEnrolled exchange) (error : Rpc.Error) :
    Becomes exchange task (task, exchange.error task.key error)
      ((task.ticket exchange).answer fun id => Rpc.errorText id error) := by
  have turn := exchange.error_turn error enrolled.found
  refine ⟨.refl task, turn, ?_, ?_⟩
  · exact ticket_turn turn enrolled
  · exact (Channel.answer_request _ _).trans enrolled.request

/-- Nothing that concerns a request. -/
theorem still_becomes (enrolled : task.IsEnrolled before) (still : Still before after) :
    Becomes before task (task, after) (task.ticket before, []) :=
  ⟨.refl task, still.turn enrolled.found, ticket_of_channel? (still.channel? _), enrolled.request⟩

/-- A still stretch may come before what becomes of a task. -/
theorem Becomes.since {result : RequestTask σ × Exchange σ} {next : Ticket σ × List String}
    {middle : Exchange σ} (becomes : Becomes middle task result next) (still : Still before middle) :
    Becomes before task result next :=
  { becomes with turn := becomes.turn.since still }

/-- A still stretch may come after what becomes of a task. -/
theorem Becomes.then {result : RequestTask σ × Exchange σ} {next : Ticket σ × List String}
    {later : Exchange σ} (becomes : Becomes before task result next) (still : Still result.2 later) :
    Becomes before task (result.1, later) next where
  same := becomes.same
  turn := becomes.turn.then still
  ticket := (ticket_of_channel? (still.channel? _)).trans becomes.ticket
  request := becomes.request

/-- Calling the request hook for an untouched request does its deed. -/
theorem invoke_becomes {deed : Request → Deed} (task : RequestTask σ)
    (quiet : exchange.OthersQuiet) (enrolled : task.IsEnrolled exchange)
    (opened : (task.ticket exchange).channel = .open task.request)
    (does : task.entrypoint.Does deed) :
    Becomes exchange task ({ task with running := true }, task.invoke exchange)
      ((task.ticket exchange).invoke deed) := by
  obtain ⟨outcome, turn⟩ :=
    Exchange.callRequest_turn does quiet (enrolled.found.trans (congrArg some opened))
  let called := (exchange.callRequest task.entrypoint task.key task.request).2
  let ran : RequestTask σ := { task with running := true }
  -- the hook itself, and then the error that it may have ended with
  have first : Becomes exchange task (ran, called)
      ({ task.ticket exchange with
          running := true
          channel := ⟨task.request, (deed task.request).answered, (deed task.request).closed⟩ },
        (deed task.request).texts) :=
    ⟨⟨rfl, rfl, rfl⟩, turn, by simp [ticket, ran, called, turn.own enrolled.lt], rfl⟩
  have later := turn.quiet quiet
  unfold RequestTask.invoke Ticket.invoke
  dsimp only
  rw [outcome, enrolled.request]
  cases (deed task.request).outcome.error? with
  | none => exact first
  | some error =>
      have still (notice : Log.Notice) : Still called (called.log notice).pause :=
        ((Still.refl called).log notice).pause later
      have answered (notice : Log.Notice) :=
        (error_becomes ((first.enrolled enrolled).of_channel? ((still notice).channel? _))
          error).since (still notice)
      have ticket (notice : Log.Notice) := ticket_of_channel? ((still notice).channel? ran.key)
      simp only [ticket, first.ticket] at answered
      exact first.trans (answered _)

/-- Running a task whose request is untouched does the same as running its ticket. -/
theorem run_becomes (deeds : Entrypoint σ → Request → Deed) (task : RequestTask σ)
    (quiet : exchange.OthersQuiet) (enrolled : task.IsEnrolled exchange)
    (fresh : (task.ticket exchange).IsFresh)
    (does : task.entrypoint.Does (deeds task.entrypoint)) :
    Becomes exchange task (task.run exchange) ((task.ticket exchange).run deeds) := by
  cases left : task.disconnected with
  | true =>
    simpa [RequestTask.run, Ticket.run, left] using
      still_becomes enrolled ((Still.refl exchange).log _)
  | false =>
    cases cancelled : task.cancelled with
    | true =>
      have paused := exchange.pause_still quiet
      have answered :=
        (error_becomes (enrolled.of_channel? (paused.channel? _)) .taskCancelled).since paused
      rw [ticket_of_channel? (paused.channel? _)] at answered
      simpa [RequestTask.run, Ticket.run, left, cancelled] using answered
    | false =>
      cases running : task.running with
      | true =>
        simpa [RequestTask.run, Ticket.run, left, cancelled, running] using
          still_becomes enrolled (.refl exchange)
      | false =>
        have still := (Still.refl exchange).log
          (.taskRunning task.request.client task.request.id task.request.method)
        have same := ticket_of_channel? (still.channel? task.key)
        have opened : (task.ticket exchange).channel = .open task.request := by
          rw [← enrolled.request]
          exact fresh left
        have invoked := (invoke_becomes task (still.quiet quiet)
          (enrolled.of_channel? (still.channel? _)) (same ▸ opened) does).since still
        rw [same] at invoked
        simpa [RequestTask.run, Ticket.run, left, cancelled, running] using invoked

/-! ### Cancelling and disconnecting -/

/-- Cancelling a task touches nothing but its mark, when the cancel hook is quiet. -/
theorem cancel_ticket (task : RequestTask σ) (quiet : exchange.OthersQuiet)
    (enrolled : task.IsEnrolled exchange) (allowed : task.entrypoint.onCancel.IsQuiet) :
    (task.cancel exchange).1 = (task.ticket exchange).cancel.1 ∧
      (task.cancel exchange).2.1.ticket exchange = (task.ticket exchange).cancel.2 ∧
      Still exchange (task.cancel exchange).2.2 := by
  have called := (Still.refl exchange).called task.entrypoint.method (.cancel task.key)
  have ran : Still exchange (exchange.callCancel task.entrypoint task.key) :=
    called.trans (Exchange.run_still task.entrypoint.onCancel _ (called.quiet quiet) allowed)
  unfold RequestTask.cancel Ticket.cancel
  cases async : task.entrypoint.isAsync <;> cases cancelled : task.cancelled <;>
    cases running : task.running <;>
    simp [async, cancelled, running, enrolled.request, ran, Still.refl] <;> simp [ticket]

/-- Disconnecting a task closes its request and does nothing else, when the disconnect hook is
quiet. -/
theorem disconnect_becomes (task : RequestTask σ) (quiet : exchange.OthersQuiet)
    (enrolled : task.IsEnrolled exchange) (allowed : task.entrypoint.onDisconnect.IsQuiet) :
    Becomes exchange task (task.disconnect exchange) ((task.ticket exchange).disconnect, []) := by
  cases left : task.disconnected with
  | true =>
    simpa [RequestTask.disconnect, Ticket.disconnect, left] using
      still_becomes enrolled (.refl exchange)
  | false =>
    have paused := exchange.pause_still quiet
    have found := (enrolled.of_channel? (paused.channel? _)).found
    rw [ticket_of_channel? (paused.channel? _)] at found
    have closed := ((exchange.pause).close_turn found).since paused
    have called := (Still.refl (exchange.pause.close task.key)).called task.entrypoint.method
      (.disconnect task.key)
    have ran : Still (exchange.pause.close task.key)
        ((exchange.pause.close task.key).callDisconnect task.entrypoint task.key).2 :=
      called.trans (Exchange.run_still task.entrypoint.onDisconnect _
        (called.quiet (closed.quiet quiet)) allowed)
    have whole (after : Exchange σ) (still : Still (exchange.pause.close task.key) after) :
        Becomes exchange task ({ task with disconnected := true }, after)
          ((task.ticket exchange).disconnect, []) := by
      have turn := closed.then still
      refine ⟨⟨rfl, rfl, rfl⟩, ?_, ?_, ?_⟩
      · simpa [Ticket.disconnect, left] using turn
      · simp [ticket, Ticket.disconnect, left, turn.own enrolled.lt]
      · simp [Ticket.disconnect, left, enrolled.request]
    simp only [RequestTask.disconnect, left, Bool.false_eq_true, if_false]
    split
    · next after result =>
        rw [result] at ran
        exact whole _ ran
    · next failure after result =>
        rw [result] at ran
        exact whole _ (ran.log _)

end RequestTask

end RpcDispatch
