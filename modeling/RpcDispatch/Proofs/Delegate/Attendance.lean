import RpcDispatch.Proofs.Delegate.Balance
import RpcDispatch.Proofs.Task.Ledger

/-
This file shows that the task manager attends to the requests of a delegating method: whatever it
does with its tasks, the book of the method stays balanced.
-/

namespace RpcDispatch

open TaskManager (keepPending)

/-- The requests of a queue that were cancelled there. -/
def withdrawals {σ : Type} (queued : List (RequestTask σ)) : List Key :=
  (queued.filter (·.cancelled)).map (·.key)

namespace Delegate.Realm

variable {σ : Type} {delegate : Delegate σ} {realm : delegate.Realm} {withdrawn : List Key}
  {queued pending front rest queued' pending' : List (RequestTask σ)} {exchange after : Exchange σ}
  {task : RequestTask σ}

/-- The manager holds every task once, the tasks of other methods keep to their own requests, and
the book of the method is balanced. -/
structure Attends (realm : delegate.Realm) (withdrawn : List Key)
    (queued pending : List (RequestTask σ)) (exchange : Exchange σ) : Prop where
  calm : realm.Calm exchange
  once : ((queued ++ pending).map (·.key)).Nodup
  strangers : ∀ task ∈ queued ++ pending, realm.mine task.key = false →
    realm.Avoids task.entrypoint
  balanced : Balanced delegate realm.mine realm.schedule withdrawn queued pending
    (realm.book exchange)

/-- What leaves the book is no concern of the manager. -/
theorem Attends.leave (attends : realm.Attends withdrawn queued pending exchange)
    (leaves : realm.Leaves exchange after) : realm.Attends withdrawn queued pending after where
  calm := leaves.calm
  once := attends.once
  strangers := attends.strangers
  balanced := by
    rw [leaves.book]
    exact attends.balanced

/-- Tasks of other methods come and go, and pending tasks may be forgotten. -/
theorem Attends.lists {withdrawn' : List Key}
    (attends : realm.Attends withdrawn queued pending exchange)
    (once : ((queued' ++ pending').map (·.key)).Nodup)
    (strangers : ∀ task ∈ queued' ++ pending', realm.mine task.key = false →
      realm.Avoids task.entrypoint)
    (waiting : ∀ task, realm.mine task.key = true → (task ∈ queued' ↔ task ∈ queued))
    (running : ∀ task ∈ pending', realm.mine task.key = true → task ∈ pending)
    (gone : ∀ key, realm.mine key = true → (key ∈ withdrawn' ↔ key ∈ withdrawn)) :
    realm.Attends withdrawn' queued' pending' exchange := by
  obtain ⟨closed, last, moves, before, serves, tally, chronicle⟩ := attends.balanced
  refine ⟨attends.calm, once, strangers, closed, last, moves, before, serves,
    tally.lists waiting running gone (fun key other => (book_foreign other).2)
      fun key channel found => ?_, chronicle⟩
  by_contra other
  rw [Bool.not_eq_true] at other
  rw [(book_foreign other).1] at found
  cases found

/-- A method that attends to its pending tasks attends to some of them. -/
theorem Attends.forget (attends : realm.Attends withdrawn queued pending exchange)
    (part : pending'.Sublist pending) : realm.Attends withdrawn queued pending' exchange := by
  have whole : (queued ++ pending').Sublist (queued ++ pending) := part.append_left queued
  exact ⟨attends.calm, attends.once.sublist (whole.map _),
    fun task member => attends.strangers task (whole.subset member),
    attends.balanced.forget part.subset⟩

/-- What is known of a task of the method that waits. -/
theorem Attends.waits (attends : realm.Attends withdrawn queued pending exchange)
    (member : task ∈ queued) (own : realm.mine task.key = true) :
    ∃ started, Waits delegate (realm.book exchange) started task := by
  obtain ⟨closed, last, moves, before, serves, tally, chronicle⟩ := attends.balanced
  exact ⟨_, tally.waiting task member own⟩

/-- What is known of a task of the method that has run. -/
theorem Attends.runs (attends : realm.Attends withdrawn queued pending exchange)
    (member : task ∈ pending) (own : realm.mine task.key = true) :
    ∃ labels, Runs delegate labels task := by
  obtain ⟨closed, last, moves, before, serves, tally, chronicle⟩ := attends.balanced
  exact ⟨_, tally.running task member own⟩

/-! ### Running -/

/-- Once the first task has been run, the manager still holds every task once, and those of other
methods keep to their own requests. -/
theorem Attends.ran (attends : realm.Attends withdrawn (task :: queued) pending exchange) :
    let held := queued ++ retained pending (task.run exchange)
    (held.map (·.key)).Nodup ∧
      ∀ old ∈ held, realm.mine old.key = false → realm.Avoids old.entrypoint := by
  have same := task.run_same exchange
  refine ⟨nodup_retained attends.once same.key, fun held member other => ?_⟩
  rcases List.mem_append.mp member with waits | kept
  · exact attends.strangers held (by simp [waits]) other
  · rcases mem_retained kept with old | rfl
    · exact attends.strangers held (by simp [old]) other
    · rw [same.entrypoint]
      exact attends.strangers task (by simp) (same.key ▸ other)

/-- The first task is of another method. -/
theorem Attends.run_stranger (attends : realm.Attends withdrawn (task :: queued) pending exchange)
    (other : realm.mine task.key = false) :
    realm.Attends (withdrawn ++ if task.cancelled then [task.key] else []) queued
      (retained pending (task.run exchange)) (task.run exchange).2.pause := by
  have ran := (attends.strangers task (by simp) other).run other attends.calm
  have away {held : RequestTask σ} (same : held.key = task.key) : realm.mine held.key ≠ true := by
    simp [same, other]
  refine (attends.leave (ran.trans ran.calm.pause)).lists attends.ran.1 attends.ran.2
    (fun held own => ?_) (fun held member own => ?_) fun key own => ?_
  · have apart : held ≠ task := fun same => away (congrArg _ same) own
    simp [apart]
  · refine (mem_retained member).resolve_right fun same => away ?_ own
    rw [same, (task.run_same exchange).key]
  · have apart : key ≠ task.key := fun same => by simp [same, other] at own
    split_ifs <;> simp [apart]

/-- The first task is of the method, and was cancelled in the queue. -/
theorem Attends.run_withdrawn (attends : realm.Attends withdrawn (task :: queued) pending exchange)
    (own : realm.mine task.key = true) (cancelled : task.cancelled = true)
    (others : ∀ held ∈ queued, held.key ≠ task.key) :
    realm.Attends (withdrawn ++ [task.key]) queued (retained pending (task.run exchange))
      (task.run exchange).2.pause := by
  obtain ⟨once, strangers⟩ := attends.ran
  obtain ⟨started, waits⟩ := attends.waits List.mem_cons_self own
  obtain ⟨same, yields⟩ := attends.calm.run_cancelled waits.stays cancelled
  have dropped : retained pending (task.run exchange) = pending := by
    unfold retained
    rw [same]
    simp [RequestTask.isPending, waits.running]
  have paused := yields.trans yields.calm.pause
  rw [dropped] at once strangers ⊢
  refine ⟨paused.calm, once, strangers, ?_⟩
  rw [paused.book]
  exact attends.balanced.withdraw own cancelled others

/-- The first task is of the method, and is launched. -/
theorem Attends.run_launched (attends : realm.Attends withdrawn (task :: queued) pending exchange)
    (own : realm.mine task.key = true) (first : task.cancelled = false)
    (others : ∀ held ∈ queued, held.key ≠ task.key) :
    realm.Attends withdrawn queued (retained pending (task.run exchange))
      (task.run exchange).2.pause := by
  obtain ⟨once, strangers⟩ := attends.ran
  obtain ⟨started, waits⟩ := attends.waits List.mem_cons_self own
  have fresh : ¬ task.IsSpent := by
    simp [RequestTask.IsSpent, waits.stays, waits.running, first]
  have same : (task.run exchange).1 = { task with running := true } := by
    rw [task.run_fst exchange, if_neg fresh]
  have part : retained pending (task.run exchange) ⊆ pending ++ [{ task with running := true }] :=
    fun held member => same ▸
      List.mem_append.mpr ((mem_retained member).imp_right List.mem_singleton.mpr)
  have yields := attends.calm.run_fresh waits.entrypoint fresh
  have paused := yields.trans yields.calm.pause
  refine ⟨paused.calm, once, strangers, ?_⟩
  rw [paused.book]
  exact (attends.balanced.launch own first others).forget part

/-- Running the first task of the queue withdraws its request or launches it. -/
theorem Attends.run (attends : realm.Attends withdrawn (task :: queued) pending exchange) :
    realm.Attends (withdrawn ++ if task.cancelled then [task.key] else []) queued
      (retained pending (task.run exchange)) (task.run exchange).2.pause := by
  have others : ∀ held ∈ queued, held.key ≠ task.key := by
    have unique := attends.once
    rw [List.cons_append, List.map_cons, List.nodup_cons] at unique
    exact fun held member same => unique.1 (same ▸ List.mem_map_of_mem (by simp [member]))
  cases own : realm.mine task.key with
  | false => exact attends.run_stranger own
  | true =>
      cases cancelled : task.cancelled with
      | true => exact attends.run_withdrawn own cancelled others
      | false =>
          rw [if_neg Bool.false_ne_true, List.append_nil]
          exact attends.run_launched own cancelled others

/-! ### Pruning -/

/-- Dropping the finished tasks leaves the book. -/
theorem Calm.keepPending (calm : realm.Calm exchange) (tasks : List (Task σ)) :
    realm.Leaves exchange (keepPending tasks exchange).2 := by
  induction tasks generalizing exchange with
  | nil => exact calm.refl
  | cons task tasks ih => exact calm.pause.trans (ih calm.pause.calm)

/-- A request of the method with a pending task waits for its answer. -/
def IsDue (realm : delegate.Realm) (book : Book) (task : RequestTask σ) : Prop :=
  realm.mine task.key = true → task.request.isNotification = false ∧ book.Unanswered task.key

/-- A pending task is due in the book of its method. -/
theorem isDue_of_isPending (realm : delegate.Realm) (pending : task.isPending exchange = true) :
    realm.IsDue (realm.book exchange) task := by
  obtain ⟨_, _, _, expected, unanswered⟩ := (task.isPending_iff exchange).mp pending
  refine fun own => ⟨expected, fun channel found => ?_⟩
  rw [book_channels own] at found
  simpa [Exchange.isAnswered, found] using unanswered

/-- The tasks that are kept are due. -/
theorem keepPending_due (calm : realm.Calm exchange) (tasks : List (RequestTask σ)) :
    ∃ kept : List (RequestTask σ),
      (keepPending (tasks.map .request) exchange).1 = kept.map .request ∧ kept.Sublist tasks ∧
        ∀ task ∈ kept, realm.IsDue (realm.book exchange) task := by
  induction tasks generalizing exchange with
  | nil => exact ⟨[], rfl, .slnil, by simp⟩
  | cons task tasks ih =>
      have paused := calm.pause
      obtain ⟨kept, same, sublist, due⟩ := ih paused.calm
      rw [paused.book, id] at due
      by_cases pending : task.isPending exchange.pause = true
      · refine ⟨task :: kept, ?_, sublist.cons_cons task, ?_⟩
        · simp [TaskManager.keepPending, Task.isPending, pending, same]
        · rintro held (_ | ⟨_, member⟩)
          · have here := realm.isDue_of_isPending pending
            rwa [paused.book, id] at here
          · exact due held member
      · refine ⟨kept, ?_, sublist.cons task, due⟩
        simp [TaskManager.keepPending, Task.isPending, pending, same]

/-- After pruning, the pending tasks of the method wait for their answers. -/
theorem Attends.prune (attends : realm.Attends withdrawn queued pending exchange) :
    let pruned := keepPending (pending.map .request) exchange
    ∃ kept : List (RequestTask σ), pruned.1 = kept.map .request ∧
      realm.Attends withdrawn queued kept pruned.2 ∧
        ∀ task ∈ kept, realm.IsDue (realm.book pruned.2) task := by
  intro pruned
  have leaves := attends.calm.keepPending (pending.map .request)
  obtain ⟨kept, same, sublist, due⟩ := keepPending_due attends.calm pending
  refine ⟨kept, same, (attends.forget sublist).leave leaves, ?_⟩
  rw [leaves.book]
  exact due

/-! ### The whole queue -/

/-- A method attends to its tasks when its queue has been drained. -/
theorem Attends.drain (attends : realm.Attends withdrawn queued pending exchange) :
    let drained := TaskManager.drain (queued.map .request) (pending.map .request) exchange
    ∃ held : List (RequestTask σ), drained.1 = held.map .request ∧
      realm.Attends (withdrawn ++ withdrawals queued) [] held drained.2 := by
  induction queued generalizing withdrawn pending exchange with
  | nil =>
      refine ⟨pending, rfl, ?_⟩
      rw [show withdrawals ([] : List (RequestTask σ)) = [] from rfl, List.append_nil]
      exact attends
  | cons task queued ih =>
      obtain ⟨held, same, later⟩ := ih attends.run
      have gone : withdrawals (task :: queued) =
          (if task.cancelled then [task.key] else []) ++ withdrawals queued := by
        cases cancelled : task.cancelled <;> simp [withdrawals, cancelled]
      rw [gone, ← List.append_assoc]
      simp only [List.map_cons, TaskManager.drain, Task.run, TaskManager.retain_request]
      exact ⟨held, same, later⟩

/-- Running the queue withdraws the requests that were cancelled in it. -/
theorem Attends.runAll (attends : realm.Attends withdrawn queued pending exchange) :
    let ran := TaskManager.runAll ⟨queued.map .request, pending.map .request⟩ exchange
    ∃ held : List (RequestTask σ), ran.1 = ⟨[], held.map .request⟩ ∧
      realm.Attends (withdrawn ++ withdrawals queued) [] held ran.2 := by
  obtain ⟨held, same, drained⟩ := attends.drain
  obtain ⟨kept, pruned, later, _⟩ := drained.prune
  unfold TaskManager.runAll TaskManager.prune
  dsimp only
  rw [same]
  exact ⟨kept, by rw [pruned], later⟩

/-! ### Updating -/

/-- Updating the entrypoints polls the job. -/
theorem Attends.update (attends : realm.Attends withdrawn queued pending exchange)
    (registry : Registry σ) (each : ∀ entrypoint ∈ registry.entrypoints,
      entrypoint = delegate.entrypoint ∨ realm.Avoids entrypoint) :
    realm.Attends withdrawn queued pending (registry.update exchange) := by
  unfold Registry.update
  generalize registry.entrypoints = entrypoints at each ⊢
  induction entrypoints generalizing exchange with
  | nil => exact attends
  | cons entrypoint entrypoints ih =>
      refine ih ?_ fun later member => each later (by simp [member])
      rcases each entrypoint (by simp) with rfl | avoids
      · have polled := attends.calm.update
        refine ⟨polled.calm, attends.once, attends.strangers, ?_⟩
        exact polled.book ▸ attends.balanced.update
      · exact attends.leave (avoids.update attends.calm)

/-! ### Cancelling -/

/-- Tasks that are alike belong to the same methods. -/
theorem Attends.recast (attends : realm.Attends withdrawn queued pending exchange)
    (waits : ∀ task ∈ queued', ∃ old ∈ queued, task.Alike old)
    (runs : ∀ task ∈ pending', ∃ old ∈ pending, task.Alike old) :
    ∀ task ∈ queued' ++ pending', realm.mine task.key = false →
      realm.Avoids task.entrypoint := by
  intro task member other
  rcases List.mem_append.mp member with member | member
  · obtain ⟨old, present, same⟩ := waits task member
    rw [same.entrypoint]
    exact attends.strangers old (List.mem_append_left _ present) (same.key ▸ other)
  · obtain ⟨old, present, same⟩ := runs task member
    rw [same.entrypoint]
    exact attends.strangers old (List.mem_append_right _ present) (same.key ▸ other)

/-- A changed task of another method takes the place of the old one. -/
theorem mem_changed {changed held : RequestTask σ} (other : realm.mine task.key = false)
    (same : changed.key = task.key) (own : realm.mine held.key = true) :
    held ∈ front ++ changed :: rest ↔ held ∈ front ++ task :: rest := by
  have apart : held ≠ task := fun equal => by simp [equal, other] at own
  have away : held ≠ changed := fun equal => by simp [equal, same, other] at own
  simp [apart, away]

/-- Cancelling a waiting task marks it at most. -/
theorem Attends.cancelWaiting
    (attends : realm.Attends withdrawn (front ++ task :: rest) pending exchange)
    (named : task.request.isNotification = false) :
    realm.Attends withdrawn (front ++ (task.cancel exchange).2.1 :: rest) pending
      (task.cancel exchange).2.2 := by
  have alike := task.cancel_alike exchange
  have once : ((front ++ (task.cancel exchange).2.1 :: rest ++ pending).map (·.key)).Nodup := by
    simpa [alike.key] using attends.once
  have strangers := attends.recast (mem_replaced alike) fun held member => ⟨held, member, .refl held⟩
  cases own : realm.mine task.key with
  | false =>
      have leaves := (attends.strangers task (by simp) own).cancel attends.calm
      exact (attends.leave leaves).lists once strangers
        (fun held yours => mem_changed own alike.key yours) (fun _ member _ => member)
        fun _ _ => .rfl
  | true =>
      have held : task ∈ front ++ task :: rest := by simp
      obtain ⟨started, waits⟩ := attends.waits held own
      have still : (task.cancel exchange).2.2 = exchange := by
        simp only [RequestTask.cancel, waits.running, Bool.false_eq_true, if_false]
        split_ifs <;> rfl
      rw [still]
      refine ⟨attends.calm, once, strangers, ?_⟩
      rcases task.cancel_task exchange with same | marked
      · rw [same]
        exact attends.balanced
      · rw [marked]
        exact attends.balanced.mark named

/-- Cancelling a task that has run stops the run of its own request. -/
theorem Attends.cancelRunning
    (attends : realm.Attends withdrawn queued (front ++ task :: rest) exchange)
    (due : realm.IsDue (realm.book exchange) task) :
    realm.Attends withdrawn queued (front ++ (task.cancel exchange).2.1 :: rest)
      (task.cancel exchange).2.2 := by
  have alike := task.cancel_alike exchange
  have once : ((queued ++ (front ++ (task.cancel exchange).2.1 :: rest)).map (·.key)).Nodup := by
    simpa [alike.key] using attends.once
  have strangers := attends.recast (fun held member => ⟨held, member, .refl held⟩) (mem_replaced alike)
  cases own : realm.mine task.key with
  | false =>
      have leaves := (attends.strangers task (by simp) own).cancel attends.calm
      exact (attends.leave leaves).lists once strangers (fun _ _ => .rfl)
        (fun held member yours => (mem_changed own alike.key yours).mp member) fun _ _ => .rfl
  | true =>
      obtain ⟨expected, unanswered⟩ := due own
      have held : task ∈ front ++ task :: rest := by simp
      obtain ⟨labels, runs⟩ := attends.runs held own
      cases first : task.cancelled with
      | true =>
          have refused : (task.cancel exchange).2 = (task, exchange) := by
            simp [RequestTask.cancel, first, runs.entrypoint, Delegate.entrypoint]
          rw [refused]
          exact attends
      | false =>
          obtain ⟨marked, yields⟩ :=
            attends.calm.cancel_running runs.entrypoint runs.running first
          rw [marked] at once strangers ⊢
          have whole : ((front ++ task :: rest).map (·.key)).Nodup := by
            have unique := attends.once
            rw [List.map_append] at unique
            exact (List.nodup_append.mp unique).2.1
          refine ⟨yields.calm, once, strangers, ?_⟩
          rw [yields.book]
          exact attends.balanced.halt own whole first expected unanswered

/-- The report of a cancellation leaves the book. -/
theorem Calm.reportCancel (calm : realm.Calm exchange) (client : ClientId) (id : Rpc.Id)
    (outcome : Except Rpc.Error Unit) :
    realm.Leaves exchange (TaskManager.reportCancel client id outcome exchange) := by
  cases outcome with
  | ok _ => exact calm.log _
  | error _ => exact calm.refl

/-- Whatever a client cancels, the book of the method stays balanced. -/
theorem Attends.cancel (attends : realm.Attends withdrawn queued pending exchange)
    (client : ClientId) (id : Rpc.Id) :
    let after := TaskManager.cancel ⟨queued.map .request, pending.map .request⟩ client id exchange
    ∃ queued' pending', after.2.1 = ⟨queued'.map .request, pending'.map .request⟩ ∧
      realm.Attends withdrawn queued' pending' after.2.2 := by
  unfold TaskManager.cancel
  split_ifs with empty
  · exact ⟨queued, pending, rfl, attends⟩
  · obtain ⟨kept, same, pruned, due⟩ := attends.prune
    simp only [TaskManager.prune, same]
    generalize (keepPending (pending.map .request) exchange).2 = exchange at pruned due
    rcases TaskManager.cancelFirst_split client id queued exchange with
      absent | ⟨front, task, rest, rfl, _, named, cut⟩
    · simp only [absent]
      rcases TaskManager.cancelFirst_split client id kept exchange with
        absent | ⟨front, task, rest, rfl, _, _, cut⟩
      · simp only [absent]
        exact ⟨queued, kept, rfl, pruned⟩
      · simp only [cut]
        have cancelled := pruned.cancelRunning (due task (by simp))
        exact ⟨queued, _, rfl, cancelled.leave (cancelled.calm.reportCancel client id _)⟩
    · simp only [cut]
      have expected : task.request.isNotification = false := by
        rw [Request.isNotification, named]
        simpa using empty
      have cancelled := pruned.cancelWaiting expected
      exact ⟨_, kept, rfl, cancelled.leave (cancelled.calm.reportCancel client id _)⟩

/-! ### New tasks -/

theorem nodup_new (once : ((queued ++ pending).map (·.key)).Nodup)
    (new : ∀ held ∈ queued ++ pending, held.key ≠ task.key) :
    ((task :: queued ++ pending).map (·.key)).Nodup := by
  rw [List.cons_append, List.map_cons, List.nodup_cons]
  refine ⟨fun listed => ?_, once⟩
  obtain ⟨held, member, same⟩ := List.mem_map.mp listed
  exact new held member same

/-- A new request of the method gets its task. -/
theorem Attends.enter (attends : realm.Attends withdrawn queued pending exchange)
    (request : Request) (own : realm.mine exchange.channels.length = true)
    (new : ∀ task ∈ queued ++ pending, task.key ≠ exchange.channels.length) :
    realm.Attends withdrawn
      (.create exchange.channels.length request delegate.entrypoint :: queued) pending
      (exchange.enroll request).2 := by
  have yields := attends.calm.enroll request own
  have absent : (realm.book exchange).channels exchange.channels.length = none := by
    rw [book_channels own, Exchange.channel?, List.getElem?_length]
  refine ⟨yields.calm, nodup_new attends.once new, fun task member other => ?_, ?_⟩
  · rcases List.mem_cons.mp member with rfl | old
    · cases own.symm.trans other
    · exact attends.strangers task old other
  · rw [yields.book]
    exact attends.balanced.enter own absent

/-- A new request of another method gets its task. -/
theorem Attends.join (attends : realm.Attends withdrawn queued pending exchange)
    (other : realm.mine task.key = false) (avoids : realm.Avoids task.entrypoint)
    (new : ∀ held ∈ queued ++ pending, held.key ≠ task.key) :
    realm.Attends withdrawn (task :: queued) pending exchange := by
  refine attends.lists (nodup_new attends.once new) (fun held member foreign => ?_)
    (fun held own => ?_) (fun _ member _ => member) fun _ _ => .rfl
  · rcases List.mem_cons.mp member with rfl | old
    · exact avoids
    · exact attends.strangers held old foreign
  · have apart : held ≠ task := fun same => by simp [same, other] at own
    simp [apart]

/-- A new task runs now or waits. -/
theorem Attends.add (attends : realm.Attends withdrawn (task :: queued) pending exchange)
    (fresh : task.cancelled = false) :
    let after := TaskManager.add ⟨queued.map .request, pending.map .request⟩ (.request task) exchange
    ∃ queued' pending', after.1 = ⟨queued'.map .request, pending'.map .request⟩ ∧
      realm.Attends withdrawn queued' pending' after.2 := by
  intro after
  cases priority : task.entrypoint.hasPriority with
  | true =>
      have logged := attends.leave (attends.calm.log
        (.runningPriority task.request.client task.request.method))
      have ran := logged.run
      simp only [fresh, Bool.false_eq_true, if_false, List.append_nil] at ran
      have same := TaskManager.add_priority queued pending task exchange priority
      exact ⟨_, _, congrArg Prod.fst same, by rw [congrArg Prod.snd same]; exact ran⟩
  | false =>
      have logged := attends.leave (attends.calm.log
        (.queued task.request.client task.request.method (queued.length + 1)))
      have moved := List.perm_append_singleton task queued
      have waits : realm.Attends withdrawn (queued ++ [task]) pending _ :=
        logged.lists (((moved.append_right pending).map _).nodup_iff.mpr logged.once)
          (fun held member => logged.strangers held ((moved.append_right pending).mem_iff.mp member))
          (fun held _ => moved.mem_iff) (fun _ member _ => member) fun _ _ => .rfl
      have same := TaskManager.add_waiting queued pending task exchange priority
      exact ⟨_, _, congrArg Prod.fst same, by rw [congrArg Prod.snd same]; exact waits⟩

end Delegate.Realm

end RpcDispatch
