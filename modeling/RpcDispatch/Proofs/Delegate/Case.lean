import RpcDispatch.Proofs.Delegate.Hearing

/-
This file follows the job of a delegating method.  Each case is a request with the round of the job
that was started for it.  Whatever the method does with its job, the answers of a request are the
outcome of its own round.
-/

namespace RpcDispatch

variable {σ : Type}

/-! ### Cases -/

/-- A request with the round of the job that was started for it. -/
structure Case where
  key : Key
  request : Request
  round : Job.Round

namespace Case

/-- The answer that the request has. -/
def text? (delegate : Delegate σ) (case : Case) : Option String :=
  if case.request.isNotification then none
  else case.round.outcome?.bind (delegate.textOf case.key case.request)

def answers (delegate : Delegate σ) (case : Case) : List Delivery :=
  (case.text? delegate).toList.map (⟨.answer case.key, case.request.client, ·⟩)

def channel (case : Case) : Channel :=
  ⟨case.request, !case.request.isNotification && case.round.outcome?.isSome, false⟩

/-- What the task of a case can tell of it. -/
def label (case : Case) : Key × Request × Bool :=
  (case.key, case.request, case.round.isAsked)

/-- The moves of the job in the rounds of some cases. -/
def moves (cases : List Case) : List (Job.Move × Bool) :=
  cases.flatMap fun case => case.round.moves

@[simp] theorem moves_append (first second : List Case) :
    moves (first ++ second) = moves first ++ moves second :=
  List.flatMap_append

@[simp] theorem moves_singleton (case : Case) : moves [case] = case.round.moves :=
  List.append_nil _

end Case

/-- Hearing of a case changes what is known of its request, and nothing else. -/
theorem Book.hearAll_case (delegate : Delegate σ) (book : Book) {case : Case} {later : Job.Round}
    {steps : List (Job.Move × Bool)} {signals : List Signal}
    (active : book.desk.active = some (case.key, case.request))
    (channel : book.channels case.key = some case.channel)
    (answers : book.answers case.key = case.answers delegate)
    (grows : case.round.Grows later steps signals) :
    book.hearAll delegate signals =
      book.set case.key { case with round := later }.channel
        ({ case with round := later }.answers delegate) := by
  have outcome := grows.outcome
  have same (silent : decisive signals = []) (kept : later.outcome? = case.round.outcome?) :
      book.hearAll delegate signals =
        book.set case.key { case with round := later }.channel
          ({ case with round := later }.answers delegate) := by
    rw [hearAll_decisive, silent]
    symm
    refine set_self (channel.trans ?_) (answers.trans ?_)
    · simp only [Case.channel, kept]
    · simp only [Case.answers, Case.text?, kept]
  cases settled : case.round.outcome? with
  | some first =>
      cases after : later.outcome? with
      | none => simp [settled, after] at outcome
      | some second =>
          simp only [settled, after, Option.toList_some, List.cons_append, List.nil_append,
            List.cons.injEq] at outcome
          exact same outcome.2.symm (by rw [after, settled, outcome.1])
  | none =>
      cases after : later.outcome? with
      | none =>
          simp only [settled, after, Option.toList_none, List.nil_append] at outcome
          exact same outcome.symm (by rw [after, settled])
      | some signal =>
          obtain ⟨ending, _, made⟩ := Option.map_eq_some_iff.mp after
          obtain ⟨encode, heard, text⟩ :=
            hear_outcome delegate active (made ▸ ending.outcome_isOutcome _)
          have opened : book.channels case.key = some (.open case.request) := by
            rw [channel, Case.channel, settled]
            simp [Channel.open]
          have unanswered : book.answers case.key = [] := by
            rw [answers, Case.answers, Case.text?, settled]
            simp
          simp only [settled, after, Option.toList_none, List.nil_append, Option.toList_some]
            at outcome
          rw [hearAll_decisive, ← outcome]
          change book.hear delegate signal = _
          rw [heard, answer_open opened, unanswered]
          cases notified : case.request.isNotification <;>
            simp [Case.channel, Case.answers, Case.text?, after, text, notified]

/-! ### The cases of a method -/

/-- The book agrees with what the rounds of the cases say. -/
structure Kept (delegate : Delegate σ) (book : Book) (cases : List Case) : Prop where
  once : (cases.map Case.key).Nodup
  body : ∀ case ∈ cases, case.round.body = delegate.body case.key case.request
  channel : ∀ case ∈ cases, book.channels case.key = some case.channel
  answers : ∀ case ∈ cases, book.answers case.key = case.answers delegate

/-- The cases of a method in their order.  All but the last are closed, and the last one is what the
job works for. -/
structure Serves (delegate : Delegate σ) (book : Book) (closed : List Case)
    (last : Option Case) : Prop extends Kept delegate book (closed ++ last.toList) where
  next : book.desk.next = none
  active : book.desk.active = last.map fun case => (case.key, case.request)
  idle : last = none → closed = [] ∧ book.desk.job = .idle
  sound : ∀ case ∈ closed, case.round.Sound True
  fits : ∀ case, last = some case → case.round.Fits book.desk.job

section

variable {delegate : Delegate σ} {book : Book} {cases closed : List Case} {case : Case}
  {last : Option Case} {key : Key} {request : Request}

/-- What is kept does not depend on the desk. -/
theorem Kept.desk (kept : Kept delegate book cases) (desk : Desk) :
    Kept delegate { book with desk } cases :=
  ⟨kept.once, kept.body, kept.channel, kept.answers⟩

/-- Only the desk and the requests of the cases matter. -/
theorem Serves.frame {after : Book} (serves : Serves delegate book closed last)
    (desk : after.desk = book.desk)
    (same : ∀ case ∈ closed ++ last.toList, book.SameAt case.key after) :
    Serves delegate after closed last where
  once := serves.once
  body := serves.body
  channel case member := (same case member).1.trans (serves.channel case member)
  answers case member := (same case member).2.trans (serves.answers case member)
  next := by rw [desk, serves.next]
  active := by rw [desk, serves.active]
  idle none := by
    rw [desk]
    exact serves.idle none
  sound := serves.sound
  fits case same := by
    rw [desk]
    exact serves.fits case same

/-- The desk names no request without a case. -/
theorem Serves.apart (serves : Serves delegate book closed last)
    (absent : ∀ case ∈ closed ++ last.toList, case.key ≠ key) :
    ∀ run, run ∈ book.desk.active ∨ run ∈ book.desk.next → run.1 ≠ key := by
  intro run named
  rw [serves.active, serves.next] at named
  rcases named with named | none
  · obtain ⟨case, same, rfl⟩ := Option.map_eq_some_iff.mp named
    exact absent case (by simp [same])
  · cases none

/-- The round of one case goes on. -/
theorem Kept.go {later : Job.Round} (kept : Kept delegate book (closed ++ [case]))
    (body : later.body = case.round.body) :
    Kept delegate (book.set case.key { case with round := later }.channel
      ({ case with round := later }.answers delegate)) (closed ++ [{ case with round := later }]) := by
  have once := kept.once
  have apart : ∀ other ∈ closed, other.key ≠ case.key := by
    intro other member same
    rw [List.map_append, List.nodup_append] at once
    exact once.2.2 other.key (List.mem_map_of_mem member) case.key (by simp) same
  have split {current : Case} (member : current ∈ closed ++ [{ case with round := later }]) :
      current ∈ closed ∨ current = { case with round := later } := by
    simpa using member
  refine ⟨by simpa using once, fun current member => ?_, fun current member => ?_,
    fun current member => ?_⟩
  · rcases split member with old | rfl
    · exact kept.body current (by simp [old])
    · exact body.trans (kept.body case (by simp))
  · rcases split member with old | rfl
    · exact (Function.update_of_ne (apart current old) ..).trans
        (kept.channel current (by simp [old]))
    · exact Function.update_self ..
  · rcases split member with old | rfl
    · exact (Function.update_of_ne (apart current old) ..).trans
        (kept.answers current (by simp [old]))
    · exact Function.update_self ..

/-- A new case begins with its start. -/
theorem Kept.begin (kept : Kept delegate book cases) (new : ∀ case ∈ cases, case.key ≠ key)
    (opened : book.channels key = some (.open request)) (unanswered : book.answers key = []) :
    Kept delegate book (cases ++ [⟨key, request, .fresh (delegate.body key request)⟩]) := by
  have split {current : Case}
      (member : current ∈ cases ++ [⟨key, request, .fresh (delegate.body key request)⟩]) :
      current ∈ cases ∨ current = ⟨key, request, .fresh (delegate.body key request)⟩ := by
    simpa using member
  refine ⟨?_, fun current member => ?_, fun current member => ?_, fun current member => ?_⟩
  · rw [List.map_append, List.nodup_append]
    refine ⟨kept.once, by simp, ?_⟩
    rintro old listed _ single rfl
    obtain ⟨first, member, rfl⟩ := List.mem_map.mp listed
    exact new first member (List.mem_singleton.mp single)
  · rcases split member with old | rfl
    · exact kept.body current old
    · rfl
  · rcases split member with old | rfl
    · exact kept.channel current old
    · rw [opened]
      simp [Case.channel, Job.Round.fresh, Job.Round.outcome?, Channel.open]
  · rcases split member with old | rfl
    · exact kept.answers current old
    · rw [unanswered]
      simp [Case.answers, Case.text?, Job.Round.fresh, Job.Round.outcome?]

/-- The method hears of the run that its job works for. -/
theorem Serves.hear {later : Job.Round} {steps : List (Job.Move × Bool)} {signals : List Signal}
    {job : Job} (serves : Serves delegate book closed (some case))
    (schedule : List (List Stride)) (fits : later.Fits job)
    (grows : case.round.Grows later steps signals) :
    Serves delegate ({ book with desk := { book.desk with job, schedule } }.hearAll delegate
      signals) closed (some { case with round := later }) := by
  have kept := serves.toKept
  rw [Option.toList_some] at kept
  rw [Book.hearAll_case delegate { book with desk := { book.desk with job, schedule } }
    serves.active (kept.channel case (by simp)) (kept.answers case (by simp)) grows]
  refine ⟨(kept.desk _).go grows.body, serves.next, serves.active, by simp, serves.sound, ?_⟩
  rintro current same
  cases same
  exact fits

/-- A move that is no start goes to the round of the last case. -/
theorem Serves.operate (serves : Serves delegate book closed (some case)) {move : Job.Move}
    (other : move.isStart = false) :
    ∃ later : Job.Round,
      Serves delegate (book.operate delegate move) closed (some { case with round := later }) ∧
        later.moves = case.round.moves ++ (book.turn move).1.map Job.Entry.step ∧
        later.isAsked =
          (case.round.isAsked || ((book.desk.job.act move).1.move.isCancel &&
            (book.desk.job.act move).1.answer)) := by
  obtain ⟨later, fits, grows, asked⟩ :=
    (serves.fits case rfl).turn other (book.desk.schedule.headD [])
  exact ⟨later, serves.hear _ fits grows, grows.moves, asked⟩

/-- A request to stop takes effect when the run is neither settled nor asked before. -/
theorem Serves.cancel (serves : Serves delegate book closed (some case))
    (unsettled : case.round.outcome? = none) (unasked : case.round.isAsked = false) :
    ∃ later : Job.Round,
      Serves delegate (book.operate delegate .cancel) closed (some { case with round := later }) ∧
        later.moves = case.round.moves ++ (book.turn .cancel).1.map Job.Entry.step ∧
        later.isAsked = true := by
  obtain ⟨later, next, moves, asked⟩ :=
    serves.operate (show Job.Move.cancel.isStart = false from rfl)
  have fits := serves.fits case rfl
  have open' : case.round.ending = none := by simpa [Job.Round.outcome?] using unsettled
  obtain ⟨_, _, cancelled, _⟩ := fits.running open'
  have effective : book.desk.job.cancel.1 = true := by
    rw [Job.cancel, fits.isRunning, open', cancelled, fits.asked, unasked]
    rfl
  refine ⟨later, next, moves, asked.trans ?_⟩
  change (_ || (true && book.desk.job.cancel.1)) = true
  rw [effective, Bool.and_true, Bool.or_true]

/-- Nothing comes of a job that was never started. -/
theorem play_idle (moves : List Job.Move) (others : ∀ move ∈ moves, move.isStart = false) :
    Job.idle.play moves = (moves.map (⟨·, false, []⟩), .idle) := by
  induction moves with
  | nil => rfl
  | cons move moves ih =>
      rw [Job.play, Job.act_idle (others move (by simp))]
      dsimp only
      rw [ih fun other member => others other (by simp [member])]
      rfl

/-- Polling goes on with the round of the last case.  Before the first case it is idle. -/
theorem Serves.poll (serves : Serves delegate book closed last) :
    ∃ last' idle, Serves delegate (book.operate delegate .poll) closed last' ∧
      last'.map Case.label = last.map Case.label ∧ (∀ step ∈ idle, step.1.isStart = false) ∧
      idle ++ Case.moves (closed ++ last'.toList) =
        Case.moves (closed ++ last.toList) ++ (book.turn .poll).1.map Job.Entry.step := by
  cases last with
  | none =>
      obtain ⟨rfl, idle⟩ := serves.idle rfl
      have others := Job.isStart_turn (show Job.Move.poll.isStart = false from rfl)
        (book.desk.schedule.headD [])
      have still := play_idle _ others
      rw [← Job.turn, ← idle, ← Book.turn] at still
      have silent : (book.turn .poll).1.flatMap Job.Entry.signals = [] := by
        rw [still]
        simp
      refine ⟨none, (book.turn .poll).1.map Job.Entry.step, ?_, rfl, ?_, ?_⟩
      · rw [Book.operate]
        dsimp only
        rw [silent, still]
        exact ⟨serves.toKept.desk _, serves.next, serves.active, fun _ => ⟨rfl, idle⟩,
          serves.sound, fun _ none => by cases none⟩
      · rw [still]
        simpa [Job.Entry.step] using others
      · simp [Case.moves]
  | some case =>
      obtain ⟨later, next, moves, asked⟩ :=
        serves.operate (show Job.Move.poll.isStart = false from rfl)
      have same : later.isAsked = case.round.isAsked := asked.trans (Bool.or_false _)
      refine ⟨_, [], next, by simp [Case.label, same], List.forall_mem_nil _, ?_⟩
      simp [moves]

/-- The run that the job works for is given up, and its request has its answer. -/
theorem Serves.leave (serves : Serves delegate book closed last) (desk : Desk)
    (active : desk.active = book.desk.active) :
    ∃ ended : Option Case, ended.map Case.label = last.map Case.label ∧
      Case.moves ended.toList = Case.moves last.toList ∧
      (∀ case ∈ ended.toList, case.round.Sound True) ∧
      let after := { book with desk }.hearAll delegate book.desk.job.drop
      after.desk = desk ∧ Kept delegate after (closed ++ ended.toList) ∧
        ∀ key, (∀ case ∈ last.toList, case.key ≠ key) → book.SameAt key after := by
  have kept := serves.toKept
  cases last with
  | none =>
      have silent : book.desk.job.drop = [] := by
        rw [(serves.idle rfl).2]
        rfl
      rw [silent]
      exact ⟨none, rfl, rfl, by simp, rfl, kept.desk desk, fun key _ => ⟨rfl, rfl⟩⟩
  | some case =>
      rw [Option.toList_some] at kept
      obtain ⟨ended, sound, moves, heard⟩ := (serves.fits case rfl).leave
      obtain ⟨point, reaches⟩ := (serves.fits case rfl).reaches
      obtain ⟨rest, arrives, _⟩ := sound.reached
      have grows : case.round.Grows ended [] book.desk.job.drop :=
        Job.Round.grows_of_callbacks reaches arrives (by rw [moves, List.append_nil]) heard
      have same := Book.hearAll_case delegate { book with desk }
        (active.trans serves.active) (kept.channel case (by simp)) (kept.answers case (by simp)) grows
      refine ⟨some { case with round := ended }, ?_, ?_, ?_, ?_⟩
      · simp [Case.label, grows.isAsked]
      · simp [moves]
      · simpa using sound
      · rw [same]
        refine ⟨rfl, (kept.desk desk).go grows.body, fun key other => ?_⟩
        have apart : key ≠ case.key := (other case (by simp)).symm
        exact ⟨Function.update_of_ne apart .., Function.update_of_ne apart ..⟩

/-- A request that is started replaces the run before it. -/
theorem Serves.start (serves : Serves delegate book closed last)
    (new : ∀ case ∈ closed ++ last.toList, case.key ≠ key)
    (opened : book.channels key = some (.open request)) (unanswered : book.answers key = []) :
    let move := Job.Move.start (delegate.body key request)
    ∃ closed' last', Serves delegate ((book.assign key request).operate delegate move) closed'
        (some last') ∧
      (closed' ++ [last']).map Case.label =
        (closed ++ last.toList).map Case.label ++ [(key, request, false)] ∧
      Case.moves (closed' ++ [last']) =
        Case.moves (closed ++ last.toList) ++ (book.turn move).1.map Job.Entry.step := by
  intro move
  let body := delegate.body key request
  let worker := (book.desk.schedule.headD []).map Job.moveOf
  obtain ⟨later, fits, grows, asked⟩ :=
    Job.Round.fits_turn_start book.desk.job body (book.desk.schedule.headD [])
  let begun : Desk := ⟨(book.turn move).2, some (key, request), book.desk.active,
    book.desk.schedule.tail⟩
  obtain ⟨ended, labels, moves, sound, desk, kept, others⟩ := serves.leave begun rfl
  have free := others key fun case member => new case (List.mem_append_right _ member)
  have same : (closed ++ ended.toList).map Case.label = (closed ++ last.toList).map Case.label := by
    rw [List.map_append, List.map_append, ← Option.toList_map, labels, Option.toList_map]
  have unused : ∀ case ∈ closed ++ ended.toList, case.key ≠ key := by
    intro case member used
    have listed : case.label ∈ (closed ++ last.toList).map Case.label :=
      same ▸ List.mem_map_of_mem member
    obtain ⟨old, present, equal⟩ := List.mem_map.mp listed
    exact new old present ((congrArg Prod.fst equal).trans used)
  let started : Desk := ⟨(book.desk.job.start body).2, none, some (key, request), begun.schedule⟩
  have begins := (kept.begin unused (free.1.trans opened) (free.2.trans unanswered)).desk started
  generalize settled_eq : { book with desk := begun }.hearAll delegate book.desk.job.drop = settled
    at desk begins
  have serves' : Serves delegate { settled with desk := started } (closed ++ ended.toList)
      (some ⟨key, request, .fresh body⟩) := by
    refine ⟨begins, rfl, rfl, by simp, fun case member => ?_, ?_⟩
    · rcases List.mem_append.mp member with old | last
      · exact serves.sound case old
      · exact sound case last
    · rintro case same
      cases same
      exact Job.fits_start book.desk.job body
  have heard : (book.assign key request).operate delegate move =
      { settled with desk := { started with job := begun.job } }.hearAll delegate
        (((book.desk.job.start body).2.play worker).1.flatMap Job.Entry.signals) := by
    change { book with desk := begun }.hearAll delegate ((book.desk.job.start body).1 ++
      ((book.desk.job.start body).2.play worker).1.flatMap Job.Entry.signals) = _
    rw [Book.hearAll_append, Book.hearAll_start, settled_eq, Book.hear, desk]
  refine ⟨closed ++ ended.toList, ⟨key, request, later⟩, ?_, ?_, ?_⟩
  · rw [heard]
    exact serves'.hear begun.schedule fits grows
  · rw [List.map_append, same, List.map_singleton, Case.label, asked]
  · rw [Case.moves_append, Case.moves_append, moves, ← Case.moves_append, Case.moves_singleton,
      grows.moves]
    rfl

end

end RpcDispatch
