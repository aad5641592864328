import RpcDispatch.Proofs.Delegate.Case
import RpcDispatch.Proofs.Delegate.Task

/-
This file compares the tasks of a delegating method with its cases.  A request of the method waits in
the queue, or it has a case, or it was withdrawn: cancelled before it came to its turn, and answered
so.
-/

namespace RpcDispatch

variable {σ : Type}

/-- The request whose hook is called. -/
def Hook.requested? : Hook → Option Key
  | .request key => some key
  | _ => none

/-- A task of the method that waits in the queue: nothing has happened to its request. -/
structure Waits (delegate : Delegate σ) (book : Book) (started : List Key)
    (task : RequestTask σ) : Prop where
  entrypoint : task.entrypoint = delegate.entrypoint
  running : task.running = false
  stays : task.disconnected = false
  opened : book.channels task.key = some (.open task.request)
  unanswered : book.answers task.key = []
  new : task.key ∉ started
  named : task.cancelled = true → task.request.isNotification = false

/-- A task of the method that has run.  It is marked as cancelled when its run was asked to stop. -/
structure Runs (delegate : Delegate σ) (labels : List (Key × Request × Bool))
    (task : RequestTask σ) : Prop where
  entrypoint : task.entrypoint = delegate.entrypoint
  running : task.running = true
  stays : task.disconnected = false
  label : (task.key, task.request, task.cancelled) ∈ labels

/-- A request that was not started and has one answer, which says that it was cancelled. -/
structure Withdrawn (book : Book) (started : List Key) (key : Key) : Prop where
  new : key ∉ started
  answered : ∃ request, (book.channels key).map Channel.request = some request ∧
    book.answers key = [⟨.answer key, request.client, Rpc.errorText request.id .taskCancelled⟩]

/-- The tasks and the withdrawn requests of the method, compared with the labels of its cases. -/
structure Tally (delegate : Delegate σ) (mine : Key → Bool) (withdrawn : List Key)
    (queued pending : List (RequestTask σ)) (book : Book)
    (labels : List (Key × Request × Bool)) : Prop where
  called : book.calls.filterMap Hook.requested? = labels.map Prod.fst
  asked : ∀ key, .cancel key ∈ book.calls ↔ ∃ request, (key, request, true) ∈ labels
  waiting : ∀ task ∈ queued, mine task.key = true →
    Waits delegate book (labels.map Prod.fst) task
  running : ∀ task ∈ pending, mine task.key = true → Runs delegate labels task
  gone : ∀ key ∈ withdrawn, mine key = true → Withdrawn book (labels.map Prod.fst) key
  silent : ∀ key, key ∉ labels.map Prod.fst → key ∉ withdrawn → book.answers key = []
  complete : ∀ key channel, book.channels key = some channel →
    (∃ task ∈ queued, task.key = key) ∨ key ∈ labels.map Prod.fst ∨ key ∈ withdrawn

section

variable {delegate : Delegate σ} {mine : Key → Bool} {withdrawn : List Key}
  {queued pending queued' pending' : List (RequestTask σ)} {book after : Book}
  {labels labels' : List (Key × Request × Bool)} {started started' : List Key}
  {task : RequestTask σ} {key : Key}

theorem Waits.same (waits : Waits delegate book started task) (same : book.SameAt task.key after)
    (new : task.key ∉ started') : Waits delegate after started' task where
  entrypoint := waits.entrypoint
  running := waits.running
  stays := waits.stays
  opened := same.1.trans waits.opened
  unanswered := same.2.trans waits.unanswered
  new := new
  named := waits.named

theorem Withdrawn.same (gone : Withdrawn book started key) (same : book.SameAt key after)
    (new : key ∉ started') : Withdrawn after started' key := by
  obtain ⟨request, found, answers⟩ := gone.answered
  exact ⟨new, request, by rw [same.1, found], same.2.trans answers⟩

/-- A withdrawn request does not wait. -/
theorem Waits.apart (waits : Waits delegate book started task)
    (gone : Withdrawn book started key) : key ≠ task.key := by
  rintro rfl
  obtain ⟨_, _, answers⟩ := gone.answered
  rw [waits.unanswered] at answers
  cases answers

/-! ### The lists of tasks -/

/-- What the lists have of other methods does not matter, and pending tasks may be forgotten. -/
theorem Tally.lists {withdrawn' : List Key}
    (tally : Tally delegate mine withdrawn queued pending book labels)
    (waiting : ∀ task, mine task.key = true → (task ∈ queued' ↔ task ∈ queued))
    (running : ∀ task ∈ pending', mine task.key = true → task ∈ pending)
    (gone : ∀ key, mine key = true → (key ∈ withdrawn' ↔ key ∈ withdrawn))
    (foreign : ∀ key, mine key = false → book.answers key = [])
    (owned : ∀ key channel, book.channels key = some channel → mine key = true) :
    Tally delegate mine withdrawn' queued' pending' book labels where
  called := tally.called
  asked := tally.asked
  waiting task member own := tally.waiting task ((waiting task own).mp member) own
  running task member own := tally.running task (running task member own) own
  gone key member own := tally.gone key ((gone key own).mp member) own
  silent key new stays := by
    cases own : mine key with
    | true => exact tally.silent key new fun old => stays ((gone key own).mpr old)
    | false => exact foreign key own
  complete key channel found := by
    have own := owned key channel found
    rcases tally.complete key channel found with ⟨task, member, rfl⟩ | listed | old
    · exact .inl ⟨task, (waiting task own).mpr member, rfl⟩
    · exact .inr (.inl listed)
    · exact .inr (.inr ((gone key own).mpr old))

/-- One waiting task is marked as cancelled. -/
theorem Tally.mark {front rest : List (RequestTask σ)}
    (tally : Tally delegate mine withdrawn (front ++ task :: rest) pending book labels)
    (named : task.request.isNotification = false) :
    Tally delegate mine withdrawn (front ++ { task with cancelled := true } :: rest) pending book
      labels where
  called := tally.called
  asked := tally.asked
  waiting held member own := by
    rw [List.mem_append, List.mem_cons] at member
    rcases member with early | rfl | late
    · exact tally.waiting held (by simp [early]) own
    · have waits := tally.waiting task (by simp) own
      exact ⟨waits.entrypoint, waits.running, waits.stays, waits.opened, waits.unanswered,
        waits.new, fun _ => named⟩
    · exact tally.waiting held (by simp [late]) own
  running := tally.running
  gone := tally.gone
  silent := tally.silent
  complete key channel found := by
    rcases tally.complete key channel found with ⟨held, member, rfl⟩ | rest
    · left
      rw [List.mem_append, List.mem_cons] at member
      rcases member with early | rfl | late
      · exact ⟨held, by simp [early], rfl⟩
      · exact ⟨{ held with cancelled := true }, by simp, rfl⟩
      · exact ⟨held, by simp [late], rfl⟩
    · exact .inr rest

/-! ### The book -/

/-- A request is entered, and its task waits. -/
theorem Tally.enter {request : Request}
    (tally : Tally delegate mine withdrawn queued pending book labels) (own : mine key = true)
    (new : book.channels key = none) (absent : key ∉ labels.map Prod.fst) :
    Tally delegate mine withdrawn (.create key request delegate.entrypoint :: queued) pending
      (book.enter key request) labels := by
  have others {other : Key} (apart : other ≠ key) : book.SameAt other (book.enter key request) :=
    ⟨Function.update_of_ne apart .., rfl⟩
  have stays : key ∉ withdrawn := by
    intro old
    obtain ⟨_, found, _⟩ := (tally.gone key old own).answered
    simp [new] at found
  refine ⟨tally.called, tally.asked, fun held member yours => ?_, tally.running,
    fun other member yours => ?_, tally.silent, fun other channel found => ?_⟩
  · rcases List.mem_cons.mp member with rfl | old
    · exact ⟨rfl, rfl, rfl, Function.update_self .., tally.silent key absent stays, absent, nofun⟩
    · have waits := tally.waiting held old yours
      refine waits.same (others ?_) waits.new
      rintro rfl
      rw [waits.opened] at new
      cases new
  · have before := tally.gone other member yours
    refine before.same (others ?_) before.new
    rintro rfl
    exact stays member
  · by_cases here : other = key
    · exact .inl ⟨_, List.mem_cons_self, here.symm⟩
    · rw [(others here).1] at found
      refine (tally.complete other channel found).imp_left fun ⟨held, member, same⟩ => ?_
      exact ⟨held, List.mem_cons_of_mem _ member, same⟩

/-- The job is polled, and the run that is in flight goes on. -/
theorem Tally.go (tally : Tally delegate mine withdrawn queued pending book labels)
    (calls : after.calls = book.calls ++ [.update])
    (same : ∀ key, key ∉ labels.map Prod.fst → book.SameAt key after) :
    Tally delegate mine withdrawn queued pending after labels where
  called := by
    rw [calls, List.filterMap_append, tally.called]
    exact List.append_nil _
  asked key := by simp [calls, tally.asked key]
  waiting task member own := by
    have waits := tally.waiting task member own
    exact waits.same (same _ waits.new) waits.new
  running := tally.running
  gone key member own := by
    have before := tally.gone key member own
    exact before.same (same key before.new) before.new
  silent key new stays := (same key new).2.trans (tally.silent key new stays)
  complete key channel found := by
    by_cases listed : key ∈ labels.map Prod.fst
    · exact .inr (.inl listed)
    · rw [(same key listed).1] at found
      exact tally.complete key channel found

/-- The first task of the queue was cancelled, and its request is answered so. -/
theorem Tally.withdraw (tally : Tally delegate mine withdrawn (task :: queued) pending book labels)
    (own : mine task.key = true) (cancelled : task.cancelled = true)
    (once : ∀ held ∈ queued, held.key ≠ task.key) :
    Tally delegate mine (withdrawn ++ [task.key]) queued pending (book.withdraw task.key)
      labels := by
  have waits := tally.waiting task (by simp) own
  have named := waits.named cancelled
  obtain ⟨_, calls, others⟩ := book.answer_frame task.key fun id => Rpc.errorText id .taskCancelled
  have answered : book.withdraw task.key = book.set task.key ⟨task.request, true, false⟩
      [⟨.answer task.key, task.request.client, Rpc.errorText task.request.id .taskCancelled⟩] := by
    rw [Book.withdraw, Book.answer_open waits.opened, waits.unanswered, named]
    rfl
  have gone : Withdrawn (book.withdraw task.key) (labels.map Prod.fst) task.key := by
    refine ⟨waits.new, task.request, ?_, ?_⟩
    · rw [answered]
      simp [Book.set]
    · rw [answered]
      exact Function.update_self ..
  refine ⟨?_, fun key => ?_, fun held member yours => ?_, tally.running,
    fun key member yours => ?_, fun key new stays => ?_, fun key channel found => ?_⟩
  · rw [Book.withdraw, calls, tally.called]
  · rw [Book.withdraw, calls, tally.asked key]
  · have later := tally.waiting held (by simp [member]) yours
    exact later.same (others held.key (once held member)) later.new
  · rcases List.mem_append.mp member with old | new
    · have before := tally.gone key old yours
      exact before.same (others key (waits.apart before)) before.new
    · rw [List.mem_singleton.mp new]
      exact gone
  · rw [List.mem_append, List.mem_singleton, not_or] at stays
    exact (others key stays.2).2.trans (tally.silent key new stays.1)
  · by_cases same : key = task.key
    · exact .inr (.inr (by simp [same]))
    · rw [Book.withdraw, (others key same).1] at found
      rcases tally.complete key channel found with ⟨held, member, rfl⟩ | listed | old
      · exact .inl ⟨held, (List.mem_cons.mp member).resolve_left fun here => same (by rw [here]),
          rfl⟩
      · exact .inr (.inl listed)
      · exact .inr (.inr (by simp [old]))

/-- The first task of the queue is started. -/
theorem Tally.start (tally : Tally delegate mine withdrawn (task :: queued) pending book labels)
    (own : mine task.key = true) (fresh : task.cancelled = false)
    (once : ∀ held ∈ queued, held.key ≠ task.key)
    (calls : after.calls = book.calls ++ [.request task.key])
    (same : ∀ key, key ∉ labels.map Prod.fst → key ≠ task.key → book.SameAt key after) :
    Tally delegate mine withdrawn queued (pending ++ [{ task with running := true }]) after
      (labels ++ [(task.key, task.request, false)]) := by
  have waits := tally.waiting task (by simp) own
  have keys : (labels ++ [(task.key, task.request, false)]).map Prod.fst =
      labels.map Prod.fst ++ [task.key] := by simp
  have new {key : Key} (absent : key ∉ labels.map Prod.fst) (apart : key ≠ task.key) :
      key ∉ (labels ++ [(task.key, task.request, false)]).map Prod.fst := by
    rw [keys, List.mem_append, List.mem_singleton]
    exact fun listed => listed.elim absent apart
  refine ⟨?_, fun key => ?_, fun held member yours => ?_, fun held member yours => ?_,
    fun key member yours => ?_, fun key absent stays => ?_, fun key channel found => ?_⟩
  · rw [calls, List.filterMap_append, tally.called, keys]
    rfl
  · simpa [calls] using tally.asked key
  · have later := tally.waiting held (by simp [member]) yours
    exact later.same (same _ later.new (once held member)) (new later.new (once held member))
  · rcases List.mem_append.mp member with old | last
    · have runs := tally.running held old yours
      exact ⟨runs.entrypoint, runs.running, runs.stays, List.mem_append_left _ runs.label⟩
    · rw [List.mem_singleton.mp last]
      exact ⟨waits.entrypoint, rfl, waits.stays, by simp [fresh]⟩
  · have before := tally.gone key member yours
    have apart := waits.apart before
    exact before.same (same key before.new apart) (new before.new apart)
  · rw [keys, List.mem_append, List.mem_singleton, not_or] at absent
    exact (same key absent.1 absent.2).2.trans (tally.silent key absent.1 stays)
  · rw [keys, List.mem_append, List.mem_singleton]
    by_cases listed : key ∈ labels.map Prod.fst
    · exact .inr (.inl (.inl listed))
    · by_cases here : key = task.key
      · exact .inr (.inl (.inr here))
      · rw [(same key listed here).1] at found
        rcases tally.complete key channel found with ⟨held, member, rfl⟩ | old | gone
        · exact .inl ⟨held, (List.mem_cons.mp member).resolve_left fun first => here (by rw [first]),
            rfl⟩
        · exact absurd old listed
        · exact .inr (.inr gone)

/-- The run in flight is asked to stop, and its task is marked. -/
theorem Tally.ask {front rest : List (RequestTask σ)}
    (tally : Tally delegate mine withdrawn queued (front ++ task :: rest) book
      (labels ++ [(task.key, task.request, false)]))
    (own : mine task.key = true) (once : ((front ++ task :: rest).map (·.key)).Nodup)
    (calls : after.calls = book.calls ++ [.cancel task.key])
    (same : ∀ key, key ∉ (labels ++ [(task.key, task.request, false)]).map Prod.fst →
      book.SameAt key after) :
    Tally delegate mine withdrawn queued (front ++ { task with cancelled := true } :: rest) after
      (labels ++ [(task.key, task.request, true)]) := by
  have runs := tally.running task (by simp) own
  have keys : (labels ++ [(task.key, task.request, true)]).map Prod.fst =
      (labels ++ [(task.key, task.request, false)]).map Prod.fst := by simp
  -- a task with another key keeps its label
  have kept {held : RequestTask σ} (other : held.key ≠ task.key) (runs : Runs delegate
      (labels ++ [(task.key, task.request, false)]) held) :
      Runs delegate (labels ++ [(task.key, task.request, true)]) held := by
    refine ⟨runs.entrypoint, runs.running, runs.stays, ?_⟩
    rcases List.mem_append.mp runs.label with old | last
    · exact List.mem_append_left _ old
    · exact absurd (congrArg Prod.fst (List.mem_singleton.mp last)) other
  have single : ∀ held ∈ front ++ rest, held.key ≠ task.key := by
    rw [List.map_append, List.map_cons] at once
    have first := (List.perm_middle.nodup_iff.mp once)
    rw [List.nodup_cons, ← List.map_append] at first
    exact fun held member equal => first.1 (equal ▸ List.mem_map_of_mem member)
  refine ⟨?_, fun key => ?_, fun held member yours => ?_, fun held member yours => ?_,
    fun key member yours => ?_, fun key new stays => ?_, fun key channel found => ?_⟩
  · rw [calls, List.filterMap_append, tally.called, keys]
    exact List.append_nil _
  · have before := tally.asked key
    simp only [List.mem_append, List.mem_singleton, Prod.mk.injEq, Bool.true_eq_false, and_false,
      or_false] at before
    simp only [calls, List.mem_append, List.mem_singleton, Hook.cancel.injEq, before,
      Prod.mk.injEq, and_true, exists_or, exists_and_left, exists_eq, and_true]
  · have waits := tally.waiting held member yours
    exact waits.same (same _ waits.new) (keys ▸ waits.new)
  · rw [List.mem_append, List.mem_cons] at member
    rcases member with early | rfl | late
    · exact kept (single held (by simp [early])) (tally.running held (by simp [early]) yours)
    · exact ⟨runs.entrypoint, runs.running, runs.stays, by simp⟩
    · exact kept (single held (by simp [late])) (tally.running held (by simp [late]) yours)
  · have before := tally.gone key member yours
    exact before.same (same key before.new) (keys ▸ before.new)
  · rw [keys] at new
    exact (same key new).2.trans (tally.silent key new stays)
  · rw [keys]
    by_cases listed : key ∈ (labels ++ [(task.key, task.request, false)]).map Prod.fst
    · exact .inr (.inl listed)
    · rw [(same key listed).1] at found
      exact tally.complete key channel found

end

end RpcDispatch
