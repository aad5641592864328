import RpcDispatch.Entrypoint.Delegate
import RpcDispatch.Proofs.Job.Rounds

/-
This file says how the round of a job grows while its owner and its worker go on, and what its owner
hears of that.  Of all signals only the start and the outcome of a round are decisive.
-/

namespace RpcDispatch

/-! ### Decisive signals -/

/-- The signals that decide what becomes of a request. -/
def Signal.isDecisive : Signal → Bool
  | .started => true
  | .completed => true
  | .failed _ => true
  | _ => false

def decisive (signals : List Signal) : List Signal :=
  signals.filter Signal.isDecisive

@[simp] theorem decisive_append (first second : List Signal) :
    decisive (first ++ second) = decisive first ++ decisive second :=
  List.filter_append first second

/-- Every decisive signal is called back. -/
theorem decisive_callbacks (signals : List Signal) :
    decisive (callbacks signals) = decisive signals := by
  rw [decisive, callbacks, List.filter_filter, decisive]
  refine List.filter_congr fun signal _ => ?_
  cases signal <;> rfl

/-- Nothing that a body reports on its way is decisive. -/
theorem Body.Path.decisive_nil {cancelled : Bool} {first last : Body} {signals : List Signal}
    (path : Body.Path cancelled first signals last) : decisive signals = [] := by
  induction path with
  | refl body => rfl
  | report _ _ ih => exact ih
  | refuse _ _ ih => exact ih
  | check _ ih => exact ih
  | tell _ ih => exact ih
  | gate _ ih => exact ih

/-! ### Moves of the worker -/

namespace Job

/-- The move of a worker. -/
def moveOf : Stride → Move
  | .work => .work
  | .release => .release

/-- A stride of the worker is a move of the job. -/
theorem stride_eq (job : Job) (stride : Stride) :
    job.stride stride = ((job.act (moveOf stride)).1.signals, (job.act (moveOf stride)).2) := by
  cases stride with
  | release => rfl
  | work =>
      unfold Job.stride Job.act moveOf
      dsimp only
      cases job.workerStep? with
      | none => rfl
      | some result => rfl

/-- The strides of the worker are played as moves of the job. -/
theorem strides_eq (job : Job) (strides : List Stride) :
    job.strides strides = ((job.play (strides.map moveOf)).1.flatMap Entry.signals,
      (job.play (strides.map moveOf)).2) := by
  induction strides generalizing job with
  | nil => rfl
  | cons stride strides ih => simp [Job.strides, play, stride_eq, ih]

/-- The worker starts no round. -/
theorem isStart_moveOf (stride : Stride) : (moveOf stride).isStart = false := by
  cases stride <;> rfl

/-- The worker cancels nothing. -/
theorem isCancel_moveOf (job : Job) (stride : Stride) :
    (job.act (moveOf stride)).1.move.isCancel = false := by
  cases stride with
  | release => rfl
  | work =>
      unfold act moveOf
      dsimp only
      cases job.workerStep? <;> rfl

/-- The worker does not ask a round to stop. -/
theorem play_unasked (job : Job) (strides : List Stride) :
    (((job.play (strides.map moveOf)).1.map Entry.step).any fun (move, answer) =>
      move.isCancel && answer) = false := by
  induction strides generalizing job with
  | nil => rfl
  | cons stride strides ih => simp [play, Entry.step, isCancel_moveOf, ih]

/-- A move of the owner, after which the worker goes on. -/
def turn (job : Job) (move : Move) (strides : List Stride) : List Entry × Job :=
  job.play (move :: strides.map moveOf)

/-- A turn that does not begin with a start has none. -/
theorem isStart_turn {move : Move} (other : move.isStart = false) (strides : List Stride) :
    ∀ step ∈ move :: strides.map moveOf, step.isStart = false := by
  simp [other, isStart_moveOf]

/-- All moves of a job: those of its owner, and what the worker does after each of them. -/
def pace : List (List Stride) → List Move → List Move
  | _, [] => []
  | schedule, move :: moves =>
    move :: (schedule.headD []).map moveOf ++ pace schedule.tail moves

/-- A further move of the owner is followed by the strides that are next in the schedule. -/
theorem pace_append (schedule : List (List Stride)) (moves : List Move) (move : Move) :
    pace schedule (moves ++ [move]) =
      pace schedule moves ++ move :: ((schedule.drop moves.length).headD []).map moveOf := by
  induction moves generalizing schedule with
  | nil => simp [pace]
  | cons first moves ih =>
      rw [List.cons_append, pace, pace, ih, ← List.drop_one, List.drop_drop, List.append_assoc,
        List.length_cons, Nat.add_comm]

/-! ### Rounds -/

namespace Round

variable {round later last : Round} {job : Job} {signals more : List Signal}

/-- The outcome that the owner has heard of a round. -/
def outcome? (round : Round) : Option Signal :=
  round.ending.map (Ending.outcome round.cancelled)

/-- A round has an outcome when it has ended. -/
theorem outcome?_isSome (round : Round) : round.outcome?.isSome = round.ending.isSome := by
  simp [outcome?]

/-- Decisive in a round are its start and its outcome. -/
theorem decisive_callbacks {point : Body} (reaches : round.Reaches point) :
    decisive round.callbacks = .started :: round.outcome?.toList := by
  obtain ⟨asked, before, _⟩ := reaches
  have outcome : decisive round.outcome?.toList = round.outcome?.toList := by
    unfold outcome? Ending.outcome
    cases round.ending with
    | none => rfl
    | some ending =>
        cases round.cancelled with
        | true => rfl
        | false => cases ending <;> rfl
  have asking : decisive (if round.cancelled then [.cancelRequested] else []) = [] := by
    cases round.cancelled <;> rfl
  change decisive ([.started] ++ round.progress ++ _ ++ round.outcome?.toList) = _
  rw [decisive_append, decisive_append, decisive_append, before.decisive_nil, asking, outcome]
  rfl

/-- The round of a job got somewhere in its body. -/
theorem Fits.reaches (fits : round.Fits job) : ∃ point, round.Reaches point := by
  have sound : round.Sound False := fits.sound False.elim
  obtain ⟨point, reaches, _⟩ := sound.reached
  exact ⟨point, reaches⟩

/-- A later form of a round, after more moves and with what was heard of them. -/
structure Grows (round later : Round) (steps : List (Move × Bool)) (signals : List Signal) :
    Prop where
  body : later.body = round.body
  steps : later.steps = round.steps ++ steps
  outcome : later.outcome?.toList = round.outcome?.toList ++ decisive signals

theorem Grows.refl (round : Round) : round.Grows round [] [] :=
  ⟨rfl, (List.append_nil _).symm, (List.append_nil _).symm⟩

/-- A round grows by what it grew by in each stretch. -/
theorem Grows.trans {first second : List (Move × Bool)} (grows : round.Grows later first signals)
    (next : later.Grows last second more) : round.Grows last (first ++ second) (signals ++ more) where
  body := next.body.trans grows.body
  steps := by rw [next.steps, grows.steps, List.append_assoc]
  outcome := by rw [next.outcome, grows.outcome, decisive_append, List.append_assoc]

/-- What is heard after a round, as far as it is decisive, is its outcome. -/
theorem grows_of_callbacks {steps : List (Move × Bool)} {point rest : Body}
    (reaches : round.Reaches point) (arrives : later.Reaches rest)
    (moves : later.moves = round.moves ++ steps)
    (heard : later.callbacks = round.callbacks ++ RpcDispatch.callbacks signals) :
    round.Grows later steps signals := by
  have outcome := congrArg decisive heard
  rw [decisive_append, decisive_callbacks reaches, decisive_callbacks arrives,
    RpcDispatch.decisive_callbacks] at outcome
  simp only [Round.moves, List.cons_append, List.cons.injEq, Prod.mk.injEq, Move.start.injEq]
    at moves outcome
  obtain ⟨⟨body, _⟩, steps⟩ := moves
  exact ⟨body, steps, outcome.2⟩

/-- Every move but a start lets the round grow. -/
theorem Fits.move (fits : round.Fits job) {move : Move} (other : move.isStart = false) :
    ∃ later, later.Fits (job.act move).2 ∧
      round.Grows later [(job.act move).1.step] (job.act move).1.signals := by
  obtain ⟨later, next, moves, heard⟩ := fits.act other
  obtain ⟨point, reaches⟩ := fits.reaches
  obtain ⟨rest, arrives⟩ := next.reaches
  exact ⟨later, next, grows_of_callbacks reaches arrives moves heard⟩

/-- A round that grew was asked to stop before or by the further moves. -/
theorem Grows.isAsked {steps : List (Move × Bool)} (grows : round.Grows later steps signals) :
    later.isAsked = (round.isAsked || steps.any fun (move, answer) => move.isCancel && answer) := by
  rw [Round.isAsked, grows.steps, List.any_append, Round.isAsked]

/-- The moves of a round that has grown. -/
theorem Grows.moves {steps : List (Move × Bool)} (grows : round.Grows later steps signals) :
    later.moves = round.moves ++ steps := by
  rw [Round.moves, grows.body, grows.steps, Round.moves, List.cons_append]

/-- Some moves without a start. -/
theorem Fits.play (fits : round.Fits job) {moves : List Move}
    (others : ∀ move ∈ moves, move.isStart = false) :
    ∃ later, later.Fits (job.play moves).2 ∧
      round.Grows later ((job.play moves).1.map Entry.step)
        ((job.play moves).1.flatMap Entry.signals) := by
  induction moves generalizing round job with
  | nil => exact ⟨round, fits, .refl round⟩
  | cons move moves ih =>
      obtain ⟨middle, next, grows⟩ := fits.move (others move (by simp))
      obtain ⟨later, ends, grown⟩ := ih next fun other member => others other (by simp [member])
      exact ⟨later, ends, grows.trans grown⟩

/-- A turn that does not begin with a start carries the round of the job on. -/
theorem Fits.turn (fits : round.Fits job) {move : Move} (other : move.isStart = false)
    (strides : List Stride) :
    ∃ later, later.Fits (job.turn move strides).2 ∧
      round.Grows later ((job.turn move strides).1.map Entry.step)
        ((job.turn move strides).1.flatMap Entry.signals) ∧
      later.isAsked =
        (round.isAsked || ((job.act move).1.move.isCancel && (job.act move).1.answer)) := by
  obtain ⟨later, ends, grows⟩ := fits.play (isStart_turn other strides)
  refine ⟨later, ends, grows, ?_⟩
  rw [grows.isAsked]
  simp only [Job.play, List.map_cons, List.any_cons, play_unasked, Bool.or_false]
  rfl

/-- A start begins a round, and the worker goes on in it. -/
theorem fits_turn_start (job : Job) (body : Body) (strides : List Stride) :
    ∃ later, later.Fits (job.turn (.start body) strides).2 ∧
      (fresh body).Grows later (((job.start body).2.play (strides.map moveOf)).1.map Entry.step)
        (((job.start body).2.play (strides.map moveOf)).1.flatMap Entry.signals) ∧
      later.isAsked = false := by
  have others : ∀ step ∈ strides.map moveOf, step.isStart = false := by
    simp [isStart_moveOf]
  obtain ⟨later, ends, grows⟩ := (Job.fits_start job body).play others
  refine ⟨later, ends, grows, ?_⟩
  rw [grows.isAsked, play_unasked]
  rfl

end Round

end Job

end RpcDispatch
