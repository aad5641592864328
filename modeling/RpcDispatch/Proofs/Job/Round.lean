import RpcDispatch.Proofs.Job.Path

/-
This file says what the owner of a job hears of it.  Every start of the job begins a round, and
the rounds follow one another: each has its start, its progress, at most one request to stop and
one outcome, before the next one begins.
-/

namespace RpcDispatch

/-- How the owner hears of the end of a body.  After a request to stop it does not matter how the
body ended. -/
def Ending.outcome (cancelled : Bool) (ending : Ending) : Signal :=
  if cancelled then .failed .taskCancelled
  else
    match ending with
    | .success => .completed
    | .failure error => .failed error
    | .panic text => .failed (.internal ("Task body panicked: " ++ text))

/-- The state of a job after the end of its body. -/
def Ending.state (cancelled : Bool) (ending : Ending) : JobState :=
  if cancelled then .cancelled
  else
    match ending with
    | .success => .completed
    | .failure _ => .errored
    | .panic _ => .errored

/-- The callbacks that end a round. -/
def Signal.isOutcome : Signal → Bool
  | .completed => true
  | .failed _ => true
  | _ => false

namespace Job

/-! ### Playing -/

/-- What can happen to a job.  Its owner starts it, polls it, waits for it or cancels it; its
worker takes one step, or goes as far as it can; a gate lets the worker through. -/
inductive Move where
  | start (body : Body)
  | poll
  | wait
  | cancel
  | work
  | advance
  | release

namespace Move

def isStart : Move → Bool
  | .start _ => true
  | _ => false

def isCancel : Move → Bool
  | .cancel => true
  | _ => false

/-- The moves that may deliver an outcome. -/
def collects : Move → Bool
  | .poll => true
  | .wait => true
  | _ => false

/-- A poll or a wait is neither a start nor a cancellation. -/
theorem other_of_collects {move : Move} (called : move.collects = true) :
    move.isStart = false ∧ move.isCancel = false := by
  cases move with
  | poll => exact ⟨rfl, rfl⟩
  | wait => exact ⟨rfl, rfl⟩
  | _ => cases called

end Move

/-! ### Outcomes -/

variable {job : Job}

/-- Delivering the outcome calls back once, with the outcome. -/
theorem callbacks_deliver (job : Job) (ending : Ending) :
    callbacks (job.deliver ending).1 = [ending.outcome job.cancelled] := by
  unfold deliver Ending.outcome
  cases job.cancelled with
  | true => rfl
  | false => cases ending <;> rfl

/-- Delivering the outcome leaves the job without a worker, in the state of the outcome. -/
theorem deliver_job (job : Job) (ending : Ending) :
    (job.deliver ending).2 =
      { job with worker := none, state := ending.state job.cancelled } := by
  unfold deliver Ending.state
  cases job.cancelled with
  | true => rfl
  | false => cases ending <;> rfl

/-- Dropping a job that has stopped calls nothing back. -/
theorem drop_stopped (stopped : job.isRunning = false) : job.drop = [] := by
  rw [drop, stopped]
  rfl

/-- Giving up a job asks its body to stop and waits for it. -/
theorem callbacks_drop {point : Body} (here : job.worker = some point) :
    callbacks job.drop = (if job.cancelled then [] else [.cancelRequested]) ++
      callbacks (point.conclude true).1 ++ [(point.conclude true).2.outcome true] := by
  obtain ⟨worker, cancelled, state⟩ := job
  cases here
  cases cancelled with
  | true =>
      change callbacks ((point.conclude true).1 ++
        (deliver ⟨some point, true, state⟩ (point.conclude true).2).1) = _
      rw [callbacks_append, callbacks_deliver]
      rfl
  | false =>
      change .cancelRequested :: callbacks ((point.conclude true).1 ++
        (deliver ⟨some point, true, state⟩ (point.conclude true).2).1) = _
      rw [callbacks_append, callbacks_deliver]
      rfl

/-- A move with its answer and with what was heard of it. -/
structure Entry where
  move : Move
  answer : Bool
  signals : List Signal

def Entry.step (entry : Entry) : Move × Bool :=
  (entry.move, entry.answer)

def act (job : Job) : Move → Entry × Job
  | .start body => (⟨.start body, true, (job.start body).1⟩, (job.start body).2)
  | .poll => (⟨.poll, job.poll.1, job.poll.2.1⟩, job.poll.2.2)
  | .wait => (⟨.wait, job.wait.1, job.wait.2.1⟩, job.wait.2.2)
  | .cancel => (⟨.cancel, job.cancel.1, job.cancel.2.1⟩, job.cancel.2.2)
  | .work =>
    match job.workerStep? with
    | none => (⟨.work, false, []⟩, job)
    | some (signals, next) => (⟨.work, true, signals⟩, next)
  | .advance => (⟨.advance, job.isRunning, job.advance.1⟩, job.advance.2)
  | .release => (⟨.release, job.release.1, []⟩, job.release.2)

/-! ### Rounds -/

/-- What happens between a start and the next one. -/
structure Round where
  body : Body
  /-- The moves after the start, with their answers. -/
  steps : List (Move × Bool)
  progress : List Signal
  cancelled : Bool
  /-- How the body ended, once the outcome has been delivered. -/
  ending : Option Ending

namespace Round

/-- What the owner hears of a round, in this order. -/
def callbacks (round : Round) : List Signal :=
  .started :: round.progress ++ (if round.cancelled then [.cancelRequested] else []) ++
    (round.ending.map (Ending.outcome round.cancelled)).toList

/-- All moves of a round, with their answers. -/
def moves (round : Round) : List (Move × Bool) :=
  (.start round.body, true) :: round.steps

/-- A call to cancel took effect. -/
def isAsked (round : Round) : Bool :=
  round.steps.any fun (move, answer) => move.isCancel && answer

/-- A poll or a wait delivered the outcome. -/
def isCollected (round : Round) : Bool :=
  round.steps.any fun (move, answer) => move.collects && answer

/-- The body can get to the given point with the progress of the round.  All of it is reported
before the request to stop, if there is one. -/
def Reaches (round : Round) (point : Body) : Prop :=
  ∃ asked, Body.Path false round.body round.progress asked ∧
    if round.cancelled then Body.Path true asked [] point else asked = point

/-- A round is cancelled when a call to cancel took effect in it, or when it was given up before
its outcome was collected.  Its outcome is delivered when it is collected or given up, and tells
how the body ended. -/
structure Sound (round : Round) (abandoned : Prop) : Prop where
  single : ∀ step ∈ round.steps, step.1.isStart = false
  cancelled : round.cancelled = true ↔
    round.isAsked = true ∨ (round.isCollected = false ∧ abandoned)
  settled : round.ending.isSome = true ↔ round.isCollected = true ∨ abandoned
  reached : ∃ point, round.Reaches point ∧
    ∀ ending, round.ending = some ending → point = .finish ending

/-- The round that a job is in, or that it was in last. -/
structure Fits (round : Round) (job : Job) : Prop where
  single : ∀ step ∈ round.steps, step.1.isStart = false
  asked : round.cancelled = round.isAsked
  collected : round.ending.isSome = round.isCollected
  running : round.ending = none → ∃ point, job.worker = some point ∧
    job.cancelled = round.cancelled ∧ job.state = .running ∧ round.Reaches point
  ended : ∀ ending, round.ending = some ending →
    job.worker = none ∧ job.state = ending.state round.cancelled ∧ round.Reaches (.finish ending)

variable {round : Round} {job : Job}

/-- The state of a job in or after the round. -/
def state (round : Round) : JobState :=
  match round.ending with
  | none => .running
  | some ending => ending.state round.cancelled

/-- The job is in the state of its round. -/
theorem Fits.state (fits : round.Fits job) : job.state = round.state := by
  unfold Round.state
  cases found : round.ending with
  | none =>
      obtain ⟨point, worker, cancelled, state, reaches⟩ := fits.running found
      exact state
  | some ending => exact (fits.ended ending found).2.1

/-- A job runs until its round has an outcome. -/
theorem Fits.isRunning (fits : round.Fits job) : job.isRunning = round.ending.isNone := by
  unfold Job.isRunning
  cases found : round.ending with
  | none =>
      obtain ⟨point, worker, cancelled, state, reaches⟩ := fits.running found
      rw [worker]
      rfl
  | some ending =>
      rw [(fits.ended ending found).1]
      rfl

/-- A round whose worker is at work has no outcome. -/
theorem Fits.unsettled {point : Body} (fits : round.Fits job) (here : job.worker = some point) :
    round.ending = none := by
  cases found : round.ending with
  | none => rfl
  | some ending =>
      rw [(fits.ended ending found).1] at here
      cases here

/-- A round that nobody gives up before its end is sound. -/
theorem Fits.sound {abandoned : Prop} (fits : round.Fits job)
    (kept : abandoned → round.ending.isSome = true) : round.Sound abandoned := by
  refine ⟨fits.single, ?_, ?_, ?_⟩
  · rw [fits.asked]
    refine ⟨Or.inl, fun cause => ?_⟩
    rcases cause with asked | ⟨uncollected, gone⟩
    · exact asked
    · have collected := kept gone
      rw [fits.collected, uncollected] at collected
      cases collected
  · rw [fits.collected]
    refine ⟨Or.inl, fun cause => ?_⟩
    rcases cause with collected | gone
    · exact collected
    · rw [← fits.collected]
      exact kept gone
  · cases found : round.ending with
    | none =>
        obtain ⟨point, worker, cancelled, state, reaches⟩ := fits.running found
        exact ⟨point, reaches, by simp⟩
    | some ending =>
        refine ⟨.finish ending, (fits.ended ending found).2.2, ?_⟩
        intro other same
        cases same
        rfl

/-! ### Growth -/

/-- The round with one more move. -/
def add (round : Round) (move : Move) (answer : Bool) : Round :=
  { round with steps := round.steps ++ [(move, answer)] }

/-- The round after more progress. -/
def report (round : Round) (signals : List Signal) : Round :=
  { round with progress := round.progress ++ signals }

/-- The round after a request to stop. -/
def ask (round : Round) : Round :=
  { round with cancelled := true }

/-- The round after its outcome. -/
def finish (round : Round) (ending : Ending) : Round :=
  { round with ending := some ending }

/-- A further step asks the round to stop only as a cancellation that takes effect. -/
theorem isAsked_add (round : Round) (move : Move) (answer : Bool) :
    (round.add move answer).isAsked = (round.isAsked || (move.isCancel && answer)) := by
  simp [isAsked, add]

/-- A further step collects the outcome only as a poll or a wait that takes effect. -/
theorem isCollected_add (round : Round) (move : Move) (answer : Bool) :
    (round.add move answer).isCollected = (round.isCollected || (move.collects && answer)) := by
  simp [isCollected, add]

/-- Nothing is reported after a request to stop. -/
theorem quiet {first last : Body} {signals : List Signal}
    (path : Body.Path round.cancelled first signals last) (asked : round.cancelled = true) :
    signals = [] := by
  rw [asked] at path
  exact path.quiet

/-- Progress of a round that has no outcome is called back behind all the rest. -/
theorem callbacks_report (round : Round) (signals : List Signal) (unsettled : round.ending = none)
    (quiet : round.cancelled = true → signals = []) :
    (round.report signals).callbacks = round.callbacks ++ signals := by
  cases found : round.cancelled with
  | true => simp [callbacks, report, unsettled, found, quiet found]
  | false => simp [callbacks, report, unsettled, found]

/-- The first request to stop is called back, and no later one. -/
theorem callbacks_ask (round : Round) (unsettled : round.ending = none) :
    round.ask.callbacks =
      round.callbacks ++ if round.cancelled then [] else [.cancelRequested] := by
  cases found : round.cancelled with
  | true => simp [callbacks, ask, unsettled, found]
  | false => simp [callbacks, ask, unsettled, found]

/-- The outcome is called back last. -/
theorem callbacks_finish (round : Round) (ending : Ending) (unsettled : round.ending = none) :
    (round.finish ending).callbacks = round.callbacks ++ [ending.outcome round.cancelled] := by
  rw [callbacks, callbacks, unsettled]
  change _ = _ ++ [] ++ _
  rw [List.append_nil]
  rfl

/-- The worker goes on. -/
theorem Reaches.report {point rest : Body} {signals : List Signal} (reaches : round.Reaches point)
    (path : Body.Path round.cancelled point signals rest) :
    (round.report signals).Reaches rest := by
  obtain ⟨asked, before, after⟩ := reaches
  cases found : round.cancelled with
  | true =>
      rw [found] at path after
      have quiet := path.quiet
      subst quiet
      refine ⟨asked, by simpa [Round.report] using before, ?_⟩
      simpa [Round.report, found] using Body.Path.trans after path
  | false =>
      rw [found] at path after
      have same : asked = point := by simpa using after
      subst same
      exact ⟨rest, before.trans path, by simp [Round.report, found]⟩

/-- A request to stop leaves the worker where it is. -/
theorem Reaches.ask {point : Body} (reaches : round.Reaches point) : round.ask.Reaches point := by
  obtain ⟨asked, before, after⟩ := reaches
  refine ⟨asked, before, ?_⟩
  change Body.Path true asked [] point
  cases found : round.cancelled with
  | true => simpa [found] using after
  | false =>
      have same : asked = point := by simpa [found] using after
      subst same
      exact .refl asked

/-! ### Steps -/

/-- The round takes in a move that is no start. -/
def Follows (round : Round) (entry : Entry) (next : Job) : Prop :=
  ∃ later : Round, later.Fits next ∧ later.moves = round.moves ++ [entry.step] ∧
    later.callbacks = round.callbacks ++ RpcDispatch.callbacks entry.signals

/-- A round has no second start. -/
theorem Fits.single_add {move : Move} {answer : Bool} (fits : round.Fits job)
    (other : move.isStart = false) :
    ∀ step ∈ (round.add move answer).steps, step.1.isStart = false := by
  intro step member
  rcases List.mem_append.mp member with member | member
  · exact fits.single step member
  · rw [List.mem_singleton] at member
    rw [member]
    exact other

/-- A step that does not ask the round to stop leaves it as it was asked. -/
theorem Fits.asked_add {move : Move} {answer : Bool} (fits : round.Fits job)
    (without : (move.isCancel && answer) = false) :
    round.cancelled = (round.add move answer).isAsked := by
  rw [isAsked_add, without, Bool.or_false]
  exact fits.asked

/-- A step that does not collect the outcome leaves it as it was collected. -/
theorem Fits.collected_add {move : Move} {answer : Bool} (fits : round.Fits job)
    (without : (move.collects && answer) = false) :
    round.ending.isSome = (round.add move answer).isCollected := by
  rw [isCollected_add, without, Bool.or_false]
  exact fits.collected

/-- A move without effect. -/
theorem Fits.still {entry : Entry} (fits : round.Fits job) (other : entry.move.isStart = false)
    (failed : entry.answer = false) (silent : entry.signals = []) : round.Follows entry job := by
  refine ⟨round.add entry.move entry.answer, ⟨fits.single_add other, ?_, ?_, ?_, ?_⟩, rfl, ?_⟩
  · exact fits.asked_add (by rw [failed, Bool.and_false])
  · exact fits.collected_add (by rw [failed, Bool.and_false])
  · exact fits.running
  · exact fits.ended
  · rw [silent, callbacks_nil, List.append_nil]
    rfl

/-- A move of the worker. -/
theorem Fits.work {entry : Entry} {point rest : Body} (fits : round.Fits job)
    (here : job.worker = some point)
    (path : Body.Path job.cancelled point (RpcDispatch.callbacks entry.signals) rest)
    (other : entry.move.isStart = false) (unasked : entry.move.isCancel = false)
    (uncollected : entry.move.collects = false) :
    round.Follows entry { job with worker := some rest } := by
  have unsettled := fits.unsettled here
  obtain ⟨_, worker, cancelled, state, reaches⟩ := fits.running unsettled
  cases here.symm.trans worker
  rw [cancelled] at path
  refine ⟨(round.add entry.move entry.answer).report (RpcDispatch.callbacks entry.signals),
    ⟨fits.single_add other, ?_, ?_, ?_, ?_⟩, rfl, ?_⟩
  · exact fits.asked_add (by rw [unasked, Bool.false_and])
  · exact fits.collected_add (by rw [uncollected, Bool.false_and])
  · intro _
    exact ⟨rest, rfl, cancelled, state, Reaches.report reaches path⟩
  · intro ending found
    rw [show round.ending = some ending from found] at unsettled
    cases unsettled
  · exact callbacks_report (round.add entry.move entry.answer) _ unsettled (quiet path)

/-- A call to cancel that takes effect. -/
theorem Fits.cancel {entry : Entry} (fits : round.Fits job) (unsettled : round.ending = none)
    (free : job.cancelled = false) (called : entry.move = .cancel) (done : entry.answer = true)
    (heard : entry.signals = [.cancelRequested]) :
    round.Follows entry { job with cancelled := true } := by
  obtain ⟨point, worker, cancelled, state, reaches⟩ := fits.running unsettled
  rw [free] at cancelled
  refine ⟨(round.add entry.move entry.answer).ask,
    ⟨fits.single_add (by rw [called]; rfl), ?_, ?_, ?_, ?_⟩, rfl, ?_⟩
  · change true = (round.add entry.move entry.answer).isAsked
    rw [isAsked_add, called, done]
    exact (Bool.or_true _).symm
  · exact fits.collected_add (by rw [called]; rfl)
  · intro _
    exact ⟨point, worker, rfl, state, Reaches.ask reaches⟩
  · intro ending found
    rw [show round.ending = some ending from found] at unsettled
    cases unsettled
  · rw [callbacks_ask (round.add entry.move entry.answer) unsettled, heard,
      show (round.add entry.move entry.answer).cancelled = false from cancelled.symm]
    rfl

/-- A poll or a wait that delivers the outcome. -/
theorem Fits.collect {entry : Entry} {point : Body} {signals : List Signal} {ending : Ending}
    (fits : round.Fits job) (here : job.worker = some point)
    (path : Body.Path job.cancelled point (RpcDispatch.callbacks signals) (.finish ending))
    (called : entry.move.collects = true) (done : entry.answer = true)
    (heard : entry.signals = signals ++ (job.deliver ending).1) :
    round.Follows entry (job.deliver ending).2 := by
  have unsettled := fits.unsettled here
  obtain ⟨other, unasked⟩ := Move.other_of_collects called
  obtain ⟨_, worker, cancelled, state, reaches⟩ := fits.running unsettled
  cases here.symm.trans worker
  rw [cancelled] at path
  let reported := (round.add entry.move entry.answer).report (RpcDispatch.callbacks signals)
  have grown : reported.callbacks = round.callbacks ++ RpcDispatch.callbacks signals :=
    callbacks_report (round.add entry.move entry.answer) _ unsettled (quiet path)
  refine ⟨reported.finish ending, ⟨fits.single_add other, ?_, ?_, ?_, ?_⟩, rfl, ?_⟩
  · exact fits.asked_add (by rw [unasked, Bool.false_and])
  · change true = (round.add entry.move entry.answer).isCollected
    rw [isCollected_add, called, done]
    exact (Bool.or_true _).symm
  · exact nofun
  · intro other same
    cases same
    rw [deliver_job, cancelled]
    exact ⟨rfl, rfl, Reaches.report reaches path⟩
  · rw [callbacks_finish reported ending unsettled, grown, heard, callbacks_append,
      callbacks_deliver, cancelled, List.append_assoc]
    rfl

/-- The owner gives the job up.  An open round ends as cancelled. -/
theorem Fits.leave (fits : round.Fits job) : ∃ closed : Round, closed.Sound True ∧
    closed.moves = round.moves ∧
      closed.callbacks = round.callbacks ++ RpcDispatch.callbacks job.drop := by
  cases found : round.ending with
  | some ending =>
      refine ⟨round, fits.sound (fun _ => by rw [found]; rfl), rfl, ?_⟩
      have stopped := fits.isRunning
      rw [found] at stopped
      rw [drop_stopped stopped, callbacks_nil, List.append_nil]
  | none =>
      obtain ⟨point, worker, cancelled, state, reaches⟩ := fits.running found
      have path : Body.Path true point _ _ := point.conclude_path
      let reported := round.ask.report (RpcDispatch.callbacks (point.conclude true).1)
      have grown := callbacks_report round.ask _ found (quiet path)
      rw [callbacks_ask round found] at grown
      refine ⟨reported.finish (point.conclude true).2, ⟨fits.single, ?_, ?_, ?_⟩, rfl, ?_⟩
      · have uncollected := fits.collected
        rw [found] at uncollected
        exact ⟨fun _ => Or.inr ⟨uncollected.symm, trivial⟩, fun _ => rfl⟩
      · exact ⟨fun _ => Or.inr trivial, fun _ => rfl⟩
      · refine ⟨.finish (point.conclude true).2, Reaches.report (Reaches.ask reaches) path, ?_⟩
        intro other same
        cases same
        rfl
      · rw [callbacks_finish reported _ found, grown, callbacks_drop worker, cancelled,
          List.append_assoc, List.append_assoc, List.append_assoc]
        rfl

end Round

end Job

end RpcDispatch
