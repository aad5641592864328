import RpcDispatch.Proofs.Delegate.Chronicle
import RpcDispatch.Proofs.Delegate.Tally

/-
This file shows that the book of a delegating method stays balanced: whatever the method does for a
request, its cases agree with the book and with what its job went through, and its tasks agree with
the cases.
-/

namespace RpcDispatch

variable {σ : Type}

/-- The cases of a method agree with its book, its tasks agree with the cases, and the rounds of the
cases are those of the job. -/
def Balanced (delegate : Delegate σ) (mine : Key → Bool) (schedule : List (List Stride))
    (withdrawn : List Key) (queued pending : List (RequestTask σ)) (book : Book) : Prop :=
  ∃ closed last moves before, Serves delegate book closed last ∧
    Tally delegate mine withdrawn queued pending book ((closed ++ last.toList).map Case.label) ∧
    Chronicle schedule book (closed ++ last.toList) moves before

/-- The request has no answer yet. -/
def Book.Unanswered (key : Key) (book : Book) : Prop :=
  ∀ channel, book.channels key = some channel → channel.answered = false

theorem Case.labels_keys (cases : List Case) :
    (cases.map Case.label).map Prod.fst = cases.map Case.key :=
  List.map_map ..

section

variable {delegate : Delegate σ} {mine : Key → Bool} {schedule : List (List Stride)}
  {withdrawn : List Key} {queued pending front rest : List (RequestTask σ)} {book : Book}
  {task : RequestTask σ} {closed : List Case} {last : Option Case} {key : Key}

/-- A request without a label has no case. -/
theorem absent_of_labels (absent : key ∉ ((closed ++ last.toList).map Case.label).map Prod.fst) :
    ∀ case ∈ closed ++ last.toList, case.key ≠ key := by
  rw [Case.labels_keys] at absent
  exact fun case member same => absent (same ▸ List.mem_map_of_mem member)

/-- Before the first request everything is in balance. -/
theorem balanced_start (desk : book.desk = .clear schedule)
    (channels : ∀ key, book.channels key = none) (answers : ∀ key, book.answers key = [])
    (calls : book.calls = []) : Balanced delegate mine schedule [] [] [] book := by
  refine ⟨[], none, [], [],
    ⟨⟨.nil, nofun, nofun, nofun⟩, ?_, ?_, fun _ => ⟨rfl, ?_⟩, nofun, nofun⟩,
    ⟨?_, fun key => ?_, nofun, nofun, nofun, fun key _ _ => answers key, fun key channel found => ?_⟩,
    chronicle_start desk calls⟩
  · rw [desk]
    rfl
  · rw [desk]
    rfl
  · rw [desk]
    rfl
  · rw [calls]
    rfl
  · simp [calls]
  · rw [channels key] at found
    cases found

/-- Calling a hook is no concern of the cases. -/
theorem Serves.call (serves : Serves delegate book closed last) (hook : Hook) :
    Serves delegate (book.call hook) closed last :=
  serves.frame rfl fun _ _ => ⟨rfl, rfl⟩

/-- Pending tasks may be forgotten. -/
theorem Balanced.forget {pending' : List (RequestTask σ)}
    (balanced : Balanced delegate mine schedule withdrawn queued pending book)
    (part : pending' ⊆ pending) : Balanced delegate mine schedule withdrawn queued pending' book := by
  obtain ⟨closed, last, moves, before, serves, tally, chronicle⟩ := balanced
  exact ⟨closed, last, moves, before, serves,
    { tally with running := fun task member => tally.running task (part member) }, chronicle⟩

/-- A waiting task may be marked as cancelled. -/
theorem Balanced.mark
    (balanced : Balanced delegate mine schedule withdrawn (front ++ task :: rest) pending book)
    (named : task.request.isNotification = false) :
    Balanced delegate mine schedule withdrawn (front ++ { task with cancelled := true } :: rest) pending
      book := by
  obtain ⟨closed, last, moves, before, serves, tally, chronicle⟩ := balanced
  exact ⟨closed, last, moves, before, serves, tally.mark named, chronicle⟩

/-- A request that was cancelled in the queue is answered so. -/
theorem Balanced.withdraw
    (balanced : Balanced delegate mine schedule withdrawn (task :: queued) pending book)
    (own : mine task.key = true) (cancelled : task.cancelled = true)
    (once : ∀ held ∈ queued, held.key ≠ task.key) :
    Balanced delegate mine schedule (withdrawn ++ [task.key]) queued pending
      (book.withdraw task.key) := by
  obtain ⟨closed, last, moves, before, serves, tally, chronicle⟩ := balanced
  have absent := absent_of_labels (tally.waiting task (by simp) own).new
  obtain ⟨desk, calls, others⟩ := book.answer_frame task.key fun id =>
    Rpc.errorText id .taskCancelled
  exact ⟨closed, last, moves, before,
    serves.frame desk fun case member => others case.key (absent case member),
    tally.withdraw own cancelled once, chronicle.same desk calls⟩

/-- A request that comes to its turn is started. -/
theorem Balanced.launch
    (balanced : Balanced delegate mine schedule withdrawn (task :: queued) pending book)
    (own : mine task.key = true) (fresh : task.cancelled = false)
    (once : ∀ held ∈ queued, held.key ≠ task.key) :
    Balanced delegate mine schedule withdrawn queued (pending ++ [{ task with running := true }])
      (book.launch delegate task.key task.request) := by
  obtain ⟨closed, last, moves, before, serves, tally, chronicle⟩ := balanced
  have waits := tally.waiting task (by simp) own
  obtain ⟨closed', last', begun, labels, grown⟩ := (serves.call (.request task.key)).start
    (absent_of_labels waits.new) waits.opened waits.unanswered
  obtain ⟨calls, others⟩ := Book.operate_frame delegate
    (.start (delegate.body task.key task.request))
    ((book.call (.request task.key)).assign task.key task.request)
  refine ⟨closed', some last', _, _, begun, ?_,
    chronicle.next [] (.request task.key _) rfl rfl rfl nofun grown⟩
  rw [Option.toList_some, labels]
  refine tally.start own fresh once calls fun key absent apart => others key fun run named => ?_
  rcases named with active | next
  · exact serves.apart (absent_of_labels absent) run (.inl active)
  · cases next
    exact apart.symm

/-- The run in flight is asked to stop for its own request: another one would have its answer. -/
theorem Balanced.halt
    (balanced : Balanced delegate mine schedule withdrawn queued (front ++ task :: rest) book)
    (own : mine task.key = true) (once : ((front ++ task :: rest).map (·.key)).Nodup)
    (first : task.cancelled = false) (expected : task.request.isNotification = false)
    (unanswered : book.Unanswered task.key) :
    Balanced delegate mine schedule withdrawn queued (front ++ { task with cancelled := true } :: rest)
      (book.halt delegate task.key) := by
  obtain ⟨closed, last, moves, before, serves, tally, chronicle⟩ := balanced
  obtain ⟨case, member, label⟩ := List.mem_map.mp (tally.running task (by simp) own).label
  rw [first] at label
  obtain ⟨same, request, unasked⟩ : case.key = task.key ∧ case.request = task.request ∧
      case.round.isAsked = false := by
    simpa [Case.label] using label
  have unsettled : case.round.outcome? = none := by
    have waits := unanswered _ (same ▸ serves.channel case member)
    simpa [Case.channel, request, expected] using waits
  have current : last = some case := by
    rcases List.mem_append.mp member with old | here
    · have settled := (serves.sound case old).settled.mpr (.inr trivial)
      rw [← case.round.outcome?_isSome, unsettled] at settled
      cases settled
    · exact Option.mem_toList.mp here
  subst current
  rw [Option.toList_some, List.map_append, List.map_singleton, label] at tally
  obtain ⟨later, halted, grown, asked⟩ := (serves.call (.cancel task.key)).cancel unsettled unasked
  obtain ⟨calls, others⟩ := Book.operate_frame delegate .cancel (book.call (.cancel task.key))
  refine ⟨closed, some { case with round := later }, _, _, halted, ?_,
    chronicle.next [] (.cancel task.key) rfl rfl rfl (List.forall_mem_nil _) ?_⟩
  · have relabelled : (⟨case.key, case.request, later⟩ : Case).label =
        (task.key, task.request, true) := by
      rw [Case.label, same, request, asked]
    rw [Option.toList_some, List.map_append, List.map_singleton, relabelled]
    refine tally.ask own once calls fun key absent => others key (serves.apart ?_)
    refine absent_of_labels ?_
    rwa [Option.toList_some, List.map_append, List.map_singleton, label]
  · simp only [Option.toList_some, Case.moves_append, Case.moves_singleton, grown,
      List.append_assoc, List.nil_append]
    rfl

/-- The job is polled. -/
theorem Balanced.update (balanced : Balanced delegate mine schedule withdrawn queued pending book) :
    Balanced delegate mine schedule withdrawn queued pending (book.update delegate) := by
  obtain ⟨closed, last, moves, before, serves, tally, chronicle⟩ := balanced
  obtain ⟨last', idle, polled, label, calm, grown⟩ := (serves.call .update).poll
  obtain ⟨calls, others⟩ := Book.operate_frame delegate .poll (book.call .update)
  have labels : (closed ++ last'.toList).map Case.label =
      (closed ++ last.toList).map Case.label := by
    rw [List.map_append, List.map_append, ← Option.toList_map, label, Option.toList_map]
  refine ⟨closed, last', _, _, polled, ?_, chronicle.next idle .update rfl rfl rfl calm grown⟩
  rw [labels]
  exact tally.go calls fun key absent => others key (serves.apart (absent_of_labels absent))

/-- A request is entered with its task. -/
theorem Balanced.enter {request : Request}
    (balanced : Balanced delegate mine schedule withdrawn queued pending book)
    (own : mine key = true) (new : book.channels key = none) :
    Balanced delegate mine schedule withdrawn
      (.create key request delegate.entrypoint :: queued) pending (book.enter key request) := by
  obtain ⟨closed, last, moves, before, serves, tally, chronicle⟩ := balanced
  have absent : ∀ case ∈ closed ++ last.toList, case.key ≠ key := by
    rintro case member rfl
    rw [serves.channel case member] at new
    cases new
  refine ⟨closed, last, moves, before, serves.frame rfl fun case member => ?_,
    tally.enter own new ?_, chronicle.same rfl rfl⟩
  · exact ⟨Function.update_of_ne (absent case member) .., rfl⟩
  · rw [Case.labels_keys]
    rintro listed
    obtain ⟨case, member, same⟩ := List.mem_map.mp listed
    exact absent case member same

end

end RpcDispatch
