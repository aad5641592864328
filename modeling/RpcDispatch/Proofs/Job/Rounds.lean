import RpcDispatch.Proofs.Job.Round

/-
This file follows a job from its first start on.  The rounds come one after another: the owner
hears everything of one before anything of the next, and the job never hears two outcomes of one.
-/

namespace RpcDispatch.Job

variable {job : Job} {move : Move} {round : Round}

/-! ### Moves -/

/-- A poll delivers the outcome of a worker that has finished, and does nothing otherwise. -/
theorem poll_cases (job : Job) : job.poll = (false, [], job) ∨
    ∃ ending, job.worker = some (.finish ending) ∧ job.poll = (true, job.deliver ending) := by
  unfold poll
  cases job.worker with
  | none => exact Or.inl rfl
  | some body =>
      cases body with
      | finish ending => exact Or.inr ⟨ending, rfl, rfl⟩
      | _ => exact Or.inl rfl

/-- A wait runs the body to its end and delivers the outcome, where there is a worker. -/
theorem wait_cases (job : Job) : job.wait = (false, [], job) ∨
    ∃ body, job.worker = some body ∧ job.wait = (true,
      (body.conclude job.cancelled).1 ++ (job.deliver (body.conclude job.cancelled).2).1,
      (job.deliver (body.conclude job.cancelled).2).2) := by
  unfold wait
  cases job.worker with
  | none => exact Or.inl rfl
  | some body => exact Or.inr ⟨body, rfl, rfl⟩

/-- A cancellation takes effect once, while the job runs. -/
theorem cancel_cases (job : Job) : job.cancel = (false, [], job) ∨
    job.isRunning = true ∧ job.cancelled = false ∧
      job.cancel = (true, [.cancelRequested], { job with cancelled := true }) := by
  unfold cancel
  cases job.isRunning with
  | false => exact Or.inl rfl
  | true =>
      cases job.cancelled with
      | true => exact Or.inl rfl
      | false => exact Or.inr ⟨rfl, rfl, rfl⟩

/-- Before its first start nothing happens to a job. -/
theorem act_idle (other : move.isStart = false) :
    idle.act move = (⟨move, false, []⟩, idle) := by
  cases move with
  | start body => cases other
  | _ => rfl

/-- Every move but a start is taken in by the round that the job is in. -/
theorem Round.Fits.act (fits : round.Fits job) (other : move.isStart = false) :
    round.Follows (job.act move).1 (job.act move).2 := by
  cases move with
  | start body => cases other
  | poll =>
      change round.Follows ⟨.poll, job.poll.1, job.poll.2.1⟩ job.poll.2.2
      rcases job.poll_cases with same | ⟨ending, here, delivered⟩
      · rw [same]
        exact fits.still rfl rfl rfl
      · rw [delivered]
        have path : Body.Path job.cancelled _ (RpcDispatch.callbacks []) _ := .refl (.finish ending)
        exact fits.collect here path rfl rfl rfl
  | wait =>
      change round.Follows ⟨.wait, job.wait.1, job.wait.2.1⟩ job.wait.2.2
      rcases job.wait_cases with same | ⟨body, here, delivered⟩
      · rw [same]
        exact fits.still rfl rfl rfl
      · rw [delivered]
        exact fits.collect here body.conclude_path rfl rfl rfl
  | cancel =>
      change round.Follows ⟨.cancel, job.cancel.1, job.cancel.2.1⟩ job.cancel.2.2
      rcases job.cancel_cases with same | ⟨runs, free, asked⟩
      · rw [same]
        exact fits.still rfl rfl rfl
      · rw [asked]
        rw [fits.isRunning, Option.isNone_iff_eq_none] at runs
        exact fits.cancel runs free rfl rfl rfl
  | work =>
      unfold Job.act workerStep?
      cases here : job.worker with
      | none => exact fits.still rfl rfl rfl
      | some body =>
          simp only [Option.bind_some]
          cases stepped : body.step job.cancelled with
          | none => exact fits.still rfl rfl rfl
          | some result => exact fits.work here (Body.step_path stepped) rfl rfl rfl
  | advance =>
      unfold Job.act advance
      cases here : job.worker with
      | none =>
          have stopped : job.isRunning = false := by
            rw [Job.isRunning, here]
            rfl
          exact fits.still rfl stopped rfl
      | some body => exact fits.work here body.advance_path rfl rfl rfl
  | release =>
      unfold Job.act release
      cases here : job.worker with
      | none => exact fits.still rfl rfl rfl
      | some body =>
          cases body with
          | gate next => exact fits.work here (.gate (.refl _)) rfl rfl rfl
          | _ => exact fits.still rfl rfl rfl

/-! ### Runs -/

/-- The moves of a list in order. -/
def play (job : Job) : List Move → List Entry × Job
  | [] => ([], job)
  | move :: moves =>
    let (entry, next) := job.act move
    let (entries, last) := next.play moves
    (entry :: entries, last)

/-- Moves are played one after another. -/
theorem play_append (job : Job) (first second : List Move) :
    job.play (first ++ second) =
      ((job.play first).1 ++ ((job.play first).2.play second).1,
        ((job.play first).2.play second).2) := by
  induction first generalizing job with
  | nil => rfl
  | cons move moves ih => simp [play, ih]

/-- The rounds of a job.  The last one may still be open. -/
structure Told (entries : List Entry) (job : Job) (before : List (Move × Bool))
    (closed : List Round) (last : Option Round) : Prop where
  heard : callbacks (entries.flatMap Entry.signals) =
    (closed ++ last.toList).flatMap Round.callbacks
  played : entries.map Entry.step = before ++ (closed ++ last.toList).flatMap Round.moves
  calm : ∀ step ∈ before, step.1.isStart = false ∧ step.2 = false
  sound : ∀ round ∈ closed, round.Sound True
  fits : ∀ round, last = some round → round.Fits job
  untouched : last = none → closed = [] ∧ job = idle

theorem told_nil : Told [] idle [] [] none :=
  ⟨rfl, rfl, by simp, by simp, by simp, fun _ => ⟨rfl, rfl⟩⟩

/-- The round that a start begins. -/
def Round.fresh (body : Body) : Round :=
  ⟨body, [], [], false, none⟩

@[simp] theorem Round.callbacks_fresh (body : Body) : (fresh body).callbacks = [.started] := rfl

@[simp] theorem Round.moves_fresh (body : Body) :
    (fresh body).moves = [(.start body, true)] := rfl

/-- A started job is in a fresh round. -/
theorem fits_start (job : Job) (body : Body) : (Round.fresh body).Fits (job.start body).2 := by
  refine ⟨by simp [Round.fresh], rfl, rfl, ?_, by simp [Round.fresh]⟩
  intro _
  exact ⟨body, rfl, rfl, rfl, body, .refl body, rfl⟩

/-- A start gives up the job as it was. -/
theorem callbacks_start (job : Job) (body : Body) :
    callbacks (job.start body).1 = callbacks job.drop ++ [.started] := by
  unfold start drop
  cases job.isRunning with
  | true => exact callbacks_append _ _
  | false => rfl

section

variable {entries : List Entry} {before : List (Move × Bool)} {closed : List Round}

/-- A move before the first start. -/
theorem Told.still (told : Told entries job before closed none) (other : move.isStart = false) :
    Told (entries ++ [(job.act move).1]) (job.act move).2 (before ++ [(move, false)])
      closed none := by
  obtain ⟨same, untouched⟩ := told.untouched rfl
  subst same untouched
  rw [act_idle other]
  refine ⟨?_, ?_, ?_, told.sound, by simp, fun _ => ⟨rfl, rfl⟩⟩
  · rw [List.flatMap_append, callbacks_append, told.heard]
    rfl
  · rw [List.map_append, told.played]
    simp [Entry.step]
  · intro step member
    rcases List.mem_append.mp member with member | member
    · exact told.calm step member
    · rw [List.mem_singleton.mp member]
      exact ⟨other, rfl⟩

/-- A move that is no start goes to the last round. -/
theorem Told.follow (told : Told entries job before closed (some round))
    (other : move.isStart = false) :
    ∃ later, Told (entries ++ [(job.act move).1]) (job.act move).2 before closed (some later) := by
  obtain ⟨later, fits, moves, callbacks⟩ := (told.fits round rfl).act other
  refine ⟨later, ?_, ?_, told.calm, told.sound, ?_, nofun⟩
  · rw [List.flatMap_append, callbacks_append, told.heard]
    simp [callbacks]
  · rw [List.map_append, told.played]
    simp [moves]
  · intro other same
    cases same
    exact fits

/-- The first start. -/
theorem Told.first (told : Told entries job before closed none) (body : Body) :
    Told (entries ++ [(job.act (.start body)).1]) (job.act (.start body)).2 before closed
      (some (.fresh body)) := by
  obtain ⟨same, untouched⟩ := told.untouched rfl
  refine ⟨?_, ?_, told.calm, told.sound, ?_, nofun⟩
  · rw [List.flatMap_append, callbacks_append, told.heard, same, untouched]
    rfl
  · rw [List.map_append, told.played, same]
    simp [Job.act, Entry.step]
  · intro other same
    cases same
    exact fits_start job body

/-- A start closes the round before it. -/
theorem Told.next (told : Told entries job before closed (some round)) (body : Body) :
    ∃ ended, Told (entries ++ [(job.act (.start body)).1]) (job.act (.start body)).2 before
      (closed ++ [ended]) (some (.fresh body)) := by
  obtain ⟨ended, sound, moves, callbacks⟩ := (told.fits round rfl).leave
  refine ⟨ended, ?_, ?_, told.calm, ?_, ?_, nofun⟩
  · rw [List.flatMap_append, callbacks_append, told.heard]
    simp [callbacks, Job.act, callbacks_start]
  · rw [List.map_append, told.played]
    simp [moves, Job.act, Entry.step]
  · intro other member
    rcases List.mem_append.mp member with member | member
    · exact told.sound other member
    · rw [List.mem_singleton.mp member]
      exact sound
  · intro other same
    cases same
    exact fits_start job body

/-- Each move carries the rounds of a job on. -/
theorem Told.act {last : Option Round} (told : Told entries job before closed last) (move : Move) :
    ∃ before closed last, Told (entries ++ [(job.act move).1]) (job.act move).2
      before closed last := by
  cases starts : move.isStart with
  | false =>
      cases last with
      | none => exact ⟨_, _, _, told.still starts⟩
      | some round =>
          obtain ⟨later, told⟩ := told.follow starts
          exact ⟨_, _, _, told⟩
  | true =>
      cases move with
      | start body =>
          cases last with
          | none => exact ⟨_, _, _, told.first body⟩
          | some round =>
              obtain ⟨ended, told⟩ := told.next body
              exact ⟨_, _, _, told⟩
      | _ => cases starts

/-- Any moves carry the rounds of a job on. -/
theorem Told.play {last : Option Round} (told : Told entries job before closed last)
    (moves : List Move) :
    ∃ before closed last, Told (entries ++ (job.play moves).1) (job.play moves).2
      before closed last := by
  induction moves generalizing entries job before closed last with
  | nil =>
      refine ⟨before, closed, last, ?_⟩
      change Told (entries ++ []) job before closed last
      rwa [List.append_nil]
  | cons move moves ih =>
      obtain ⟨before, closed, last, told⟩ := told.act move
      obtain ⟨before, closed, last, told⟩ := ih told
      refine ⟨before, closed, last, ?_⟩
      rw [List.append_assoc] at told
      exact told

end

/-! ### Answers -/

/-- A poll or a wait says whether it delivered an outcome, a call to cancel whether it asked the
body to stop. -/
structure Entry.Honest (entry : Entry) : Prop where
  collected : entry.move.collects = true →
    (entry.answer = true ↔ ∃ signal ∈ entry.signals, signal.isOutcome = true)
  asked : entry.move.isCancel = true → (entry.answer = true ↔ .cancelRequested ∈ entry.signals)

/-- An outcome is heard of every end. -/
theorem deliver_outcome (job : Job) (ending : Ending) :
    ∃ signal ∈ (job.deliver ending).1, signal.isOutcome = true := by
  unfold deliver
  cases job.cancelled with
  | true => exact ⟨_, List.mem_singleton.mpr rfl, rfl⟩
  | false =>
      cases ending with
      | success => exact ⟨_, List.mem_singleton.mpr rfl, rfl⟩
      | failure error => exact ⟨.failed error, by simp, rfl⟩
      | panic text => exact ⟨.failed (.internal ("Task body panicked: " ++ text)), by simp, rfl⟩

/-- The answers of other moves say nothing of this kind. -/
theorem Entry.Honest.other {entry : Entry} (uncollected : entry.move.collects = false)
    (unasked : entry.move.isCancel = false) : entry.Honest :=
  ⟨fun collects => absurd collects (by simp [uncollected]),
    fun asks => absurd asks (by simp [unasked])⟩

/-- A move answers what it did. -/
theorem act_honest (job : Job) (move : Move) : (job.act move).1.Honest := by
  cases move with
  | poll =>
      refine ⟨fun _ => ?_, nofun⟩
      change job.poll.1 = true ↔ ∃ signal ∈ job.poll.2.1, signal.isOutcome = true
      rcases job.poll_cases with same | ⟨ending, here, delivered⟩
      · simp [same]
      · rw [delivered]
        exact ⟨fun _ => deliver_outcome job ending, fun _ => rfl⟩
  | wait =>
      refine ⟨fun _ => ?_, nofun⟩
      change job.wait.1 = true ↔ ∃ signal ∈ job.wait.2.1, signal.isOutcome = true
      rcases job.wait_cases with same | ⟨body, here, delivered⟩
      · simp [same]
      · rw [delivered]
        refine ⟨fun _ => ?_, fun _ => rfl⟩
        obtain ⟨signal, member, outcome⟩ := deliver_outcome job (body.conclude job.cancelled).2
        exact ⟨signal, List.mem_append_right _ member, outcome⟩
  | cancel =>
      refine ⟨nofun, fun _ => ?_⟩
      change job.cancel.1 = true ↔ .cancelRequested ∈ job.cancel.2.1
      rcases job.cancel_cases with same | ⟨runs, free, asked⟩
      · simp [same]
      · simp [asked]
  | start body => exact .other rfl rfl
  | work =>
      unfold act
      cases job.workerStep? with
      | none => exact .other rfl rfl
      | some result => exact .other rfl rfl
  | advance => exact .other rfl rfl
  | release => exact .other rfl rfl

/-- Every entry of a play answers what its move did. -/
theorem play_honest (job : Job) (moves : List Move) :
    ∀ entry ∈ (job.play moves).1, entry.Honest := by
  induction moves generalizing job with
  | nil =>
      intro entry member
      cases member
  | cons move moves ih =>
      intro entry member
      rcases List.mem_cons.mp member with same | member
      · rw [same]
        exact act_honest job move
      · exact ih _ entry member

/-! ### Result -/

/-- What the owner hears of some moves, and of giving the job up after them if it does. -/
def heard (entries : List Entry) (job : Job) (dropped : Bool) : List Signal :=
  entries.flatMap Entry.signals ++ if dropped then job.drop else []

/-- Whatever happens to a job, its callbacks are those of its rounds, one after another.  A round
is given up by the next start or when the job is dropped.  The state of the job is that of its
last round. -/
theorem rounds_in_order (moves : List Move) (dropped : Bool) :
    ∃ before closed last,
      callbacks (heard (idle.play moves).1 (idle.play moves).2 dropped) =
        (closed ++ Option.toList last).flatMap Round.callbacks ∧
      (idle.play moves).1.map Entry.step =
        before ++ (closed ++ Option.toList last).flatMap Round.moves ∧
      (∀ step ∈ before, step.1.isStart = false ∧ step.2 = false) ∧
      (∀ round ∈ closed, round.Sound True) ∧
      (∀ round, last = some round → round.Sound (dropped = true)) ∧
      (last = none → closed = []) ∧
      (dropped = false → (idle.play moves).2.state = last.elim .idle Round.state) ∧
      ∀ entry ∈ (idle.play moves).1, entry.Honest := by
  obtain ⟨before, closed, last, told⟩ := told_nil.play moves
  rw [List.nil_append] at told
  have honest := play_honest idle moves
  cases dropped with
  | false =>
      refine ⟨before, closed, last, ?_, told.played, told.calm, told.sound, ?_, ?_, ?_, honest⟩
      · rw [heard, callbacks_append, told.heard]
        exact List.append_nil _
      · intro round same
        exact (told.fits round same).sound nofun
      · exact fun none => (told.untouched none).1
      · intro _
        cases last with
        | none => exact congrArg Job.state (told.untouched rfl).2
        | some round => exact (told.fits round rfl).state
  | true =>
      cases last with
      | none =>
          obtain ⟨same, untouched⟩ := told.untouched rfl
          refine ⟨before, closed, none, ?_, told.played, told.calm, told.sound, by simp,
            fun _ => same, nofun, honest⟩
          rw [heard, callbacks_append, told.heard, untouched]
          exact List.append_nil _
      | some round =>
          obtain ⟨ended, sound, moves, callbacks⟩ := (told.fits round rfl).leave
          refine ⟨before, closed, some ended, ?_, ?_, told.calm, told.sound, ?_, nofun,
            nofun, honest⟩
          · rw [heard, callbacks_append, told.heard]
            simp [callbacks]
          · rw [told.played]
            simp [moves]
          · intro other same
            cases same
            simpa using sound

end RpcDispatch.Job
