import RpcDispatch.Proofs.Delegate.Case
import RpcDispatch.Proofs.Delegate.Task

/-
This file follows the job of a delegating method from its first hook on.  The hooks that are called
say what its owner does with the job, the schedule says what its worker does in between, and the
rounds of the cases are what comes of both.
-/

namespace RpcDispatch

variable {σ : Type}

/-- What a hook of a delegating method does with the job. -/
inductive Hook.Moves : Hook → Job.Move → Prop where
  | request (key : Key) (body : Body) : Moves (.request key) (.start body)
  | cancel (key : Key) : Moves (.cancel key) .cancel
  | update : Moves .update .poll

/-- All that the job went through, from the first hook on.  The rounds of the cases make up its
moves, but for those before the first start. -/
structure Chronicle (schedule : List (List Stride)) (book : Book) (cases : List Case)
    (moves : List Job.Move) (before : List (Job.Move × Bool)) : Prop where
  called : List.Forall₂ Hook.Moves book.calls moves
  rest : book.desk.schedule = schedule.drop moves.length
  job : book.desk.job = (Job.idle.play (Job.pace schedule moves)).2
  played : (Job.idle.play (Job.pace schedule moves)).1.map Job.Entry.step =
    before ++ Case.moves cases
  calm : ∀ step ∈ before, step.1.isStart = false

section

variable {delegate : Delegate σ} {schedule : List (List Stride)} {book after : Book}
  {cases later : List Case} {moves : List Job.Move} {before : List (Job.Move × Bool)}
  {hook : Hook} {move : Job.Move}

theorem chronicle_start (desk : book.desk = .clear schedule) (calls : book.calls = []) :
    Chronicle schedule book [] [] [] where
  called := by
    rw [calls]
    exact .nil
  rest := by
    rw [desk]
    rfl
  job := by
    rw [desk]
    rfl
  played := rfl
  calm := nofun

/-- What leaves the job and the calls adds nothing. -/
theorem Chronicle.same (chronicle : Chronicle schedule book cases moves before)
    (desk : after.desk = book.desk) (calls : after.calls = book.calls) :
    Chronicle schedule after cases moves before where
  called := calls ▸ chronicle.called
  rest := by rw [desk, chronicle.rest]
  job := by rw [desk, chronicle.job]
  played := chronicle.played
  calm := chronicle.calm

/-- The next hook adds a turn of the job. -/
theorem Chronicle.next (chronicle : Chronicle schedule book cases moves before)
    (idle : List (Job.Move × Bool)) (asks : hook.Moves move) (desk : after.desk.job = book.desk.job)
    (rest : after.desk.schedule = book.desk.schedule) (calls : after.calls = book.calls ++ [hook])
    (calm : ∀ step ∈ idle, step.1.isStart = false)
    (grown : idle ++ Case.moves later =
      Case.moves cases ++ (book.turn move).1.map Job.Entry.step) :
    Chronicle schedule (after.operate delegate move) later (moves ++ [move]) (before ++ idle) := by
  have turn : after.turn move = book.turn move := by
    rw [Book.turn, Book.turn, desk, rest]
  have same : Job.idle.play (Job.pace schedule (moves ++ [move])) =
      ((Job.idle.play (Job.pace schedule moves)).1 ++ (book.turn move).1, (book.turn move).2) := by
    rw [Job.pace_append, Job.play_append, ← chronicle.job, ← chronicle.rest]
    rfl
  obtain ⟨job, left⟩ := Book.operate_job delegate move after
  refine ⟨?_, ?_, ?_, ?_, fun step member => ?_⟩
  · rw [(Book.operate_frame delegate move after).1, calls]
    exact List.rel_append chronicle.called (.cons asks .nil)
  · rw [left, rest, chronicle.rest, List.tail_drop, List.length_append]
    rfl
  · rw [job, turn, same]
  · rw [same, List.map_append, chronicle.played, List.append_assoc, List.append_assoc, grown]
  · exact (List.mem_append.mp member).elim (chronicle.calm step) (calm step)

end

end RpcDispatch
