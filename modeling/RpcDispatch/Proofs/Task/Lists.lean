import RpcDispatch.Proofs.Task.Step
import RpcDispatch.Task.Manager

/-
This file says what the task manager does to its lists.  The lists hold request tasks only: a
chunk has priority and is never pending, so it is run and forgotten.
-/

namespace RpcDispatch

open Exchange (Leads)

/-- The request task in a task. -/
def Task.request? {σ : Type} : Task σ → Option (RequestTask σ)
  | .request task => some task
  | .chunk _ => none
  | .external _ => none

theorem filterMap_request {σ : Type} (tasks : List (RequestTask σ)) :
    (tasks.map Task.request).filterMap Task.request? = tasks := by
  simp [List.filterMap_map, Function.comp_def, Task.request?]

/-- The entrypoints of the tasks of a list close no other requests than the given ones. -/
def TasksCloseOnly {σ : Type} (closes : Key → Prop) (tasks : List (RequestTask σ)) : Prop :=
  ∀ task ∈ tasks, task.entrypoint.ClosesOnly closes

/-- All tasks keep to no limit. -/
theorem tasksCloseOnly_anyKey {σ : Type} (tasks : List (RequestTask σ)) :
    TasksCloseOnly anyKey tasks :=
  fun task _ => task.entrypoint.closesOnly_anyKey

namespace RequestTask

variable {σ : Type} {closes : Key → Prop} {hooks : Hook → Prop} {before after : Exchange σ}

/-- A task that is pending after a stretch was pending before it. -/
theorem isPending_of_leads (task : RequestTask σ) (leads : Leads anyKey hooks before after)
    (pending : task.isPending after = true) : task.isPending before = true := by
  rw [isPending_iff] at pending ⊢
  obtain ⟨running, stays, isAsync, expected, unanswered⟩ := pending
  refine ⟨running, stays, isAsync, expected, ?_⟩
  by_contra answered
  rw [Bool.not_eq_false] at answered
  rw [leads.answered before.othersCloseOnly_anyKey answered] at unanswered
  cases unanswered

/-- The form of a task after the given client has left. -/
def leave (client : ClientId) (task : RequestTask σ) : RequestTask σ :=
  if task.request.client = client then { task with disconnected := true } else task

/-- A task stays the same when its client leaves. -/
theorem leave_same (client : ClientId) (task : RequestTask σ) : (task.leave client).Same task := by
  unfold leave
  split_ifs
  · exact ⟨rfl, rfl, rfl⟩
  · exact .refl task

@[simp] theorem leave_running (client : ClientId) (task : RequestTask σ) :
    (task.leave client).running = task.running := by
  unfold leave
  split_ifs <;> rfl

/-- Whether the disconnection of the client calls the hook of the task. -/
def hears (client : ClientId) (task : RequestTask σ) : Bool :=
  task.request.client = client && !task.disconnected

end RequestTask

/-- A chunk calls no hook of an entrypoint. -/
theorem ChunkTask.run_leads {σ : Type} {closes : Key → Prop} {hooks : Hook → Prop}
    (task : ChunkTask σ) (exchange : Exchange σ)
    (allowed : (task.consumer task.client task.bytes).ClosesOnly closes) :
    Leads closes hooks exchange (task.run exchange) := by
  have called : Leads closes hooks exchange
      (exchange.callConsumer task.consumer task.client task.bytes).2 :=
    exchange.callConsumer_leads task.consumer task.client task.bytes allowed
  unfold ChunkTask.run
  split
  · next result => rwa [result] at called
  · next error result =>
      rw [result] at called
      exact called.log _

/-- The pending tasks after a task has been run. -/
def retained {σ : Type} (pending : List (RequestTask σ)) (ran : RequestTask σ × Exchange σ) :
    List (RequestTask σ) :=
  if ran.1.isPending ran.2.pause then pending ++ [ran.1] else pending

/-- What is retained was pending or has just been run. -/
theorem mem_retained {σ : Type} {pending : List (RequestTask σ)} {task : RequestTask σ}
    {ran : RequestTask σ × Exchange σ}
    (member : task ∈ retained pending ran) : task ∈ pending ∨ task = ran.1 := by
  unfold retained at member
  split_ifs at member
  · simpa using member
  · exact .inl member

/-- A retained task has the key that it had in the queue. -/
theorem nodup_retained {σ : Type} {queued pending : List (RequestTask σ)} {task : RequestTask σ}
    {ran : RequestTask σ × Exchange σ} (once : ((task :: queued ++ pending).map (·.key)).Nodup)
    (same : ran.1.key = task.key) : ((queued ++ retained pending ran).map (·.key)).Nodup := by
  rw [List.cons_append, List.map_cons, List.nodup_cons] at once
  unfold retained
  split_ifs
  · rw [← List.append_assoc, List.map_append, List.map_singleton, List.nodup_append]
    refine ⟨once.2, by simp, ?_⟩
    rintro old listed _ single rfl
    rw [List.mem_singleton.mp single, same] at listed
    exact once.1 listed
  · exact once.2

namespace TaskManager

variable {σ : Type} {closes : Key → Prop} {hooks : Hook → Prop}

/-! ### Retaining -/

/-- A request task that has run is kept if it is pending. -/
theorem retain_request (pending : List (RequestTask σ)) (task : RequestTask σ)
    (exchange : Exchange σ) :
    retain (pending.map .request) (.request task) exchange =
      ((if task.isPending exchange.pause then pending ++ [task] else pending).map .request,
        exchange.pause) := by
  by_cases pends : task.isPending exchange.pause = true <;>
    simp [retain, Task.isPending, pends]

/-- A task with priority runs and is kept if it is pending. -/
theorem add_priority (queued pending : List (RequestTask σ)) (task : RequestTask σ)
    (exchange : Exchange σ) (priority : task.entrypoint.hasPriority = true) :
    add ⟨queued.map .request, pending.map .request⟩ (.request task) exchange =
      let ran := task.run (exchange.log (.runningPriority task.request.client task.request.method))
      (⟨queued.map .request,
        (if ran.1.isPending ran.2.pause then pending ++ [ran.1] else pending).map .request⟩,
        ran.2.pause) := by
  simp only [add, Task.hasPriority, priority, if_true, Task.run, Task.client, Task.method,
    retain_request]

/-- A task without priority waits at the end of the queue. -/
theorem add_waiting (queued pending : List (RequestTask σ)) (task : RequestTask σ)
    (exchange : Exchange σ) (waits : task.entrypoint.hasPriority = false) :
    add ⟨queued.map .request, pending.map .request⟩ (.request task) exchange =
      (⟨(queued ++ [task]).map .request, pending.map .request⟩,
        exchange.log (.queued task.request.client task.request.method (queued.length + 1))) := by
  simp [add, Task.hasPriority, waits, Task.client, Task.method]

/-- A chunk is run and leaves no task behind. -/
theorem add_chunk (manager : TaskManager σ) (task : ChunkTask σ) (exchange : Exchange σ) :
    manager.add (.chunk task) exchange =
      (manager, (task.run (exchange.log (.runningPriority task.client "binary"))).pause) := by
  simp [TaskManager.add, Task.hasPriority, Task.run, Task.client, Task.method, retain,
    Task.isPending]

/-! ### Pruning -/

/-- Asking the tasks calls no hook. -/
theorem keepPending_leads (tasks : List (Task σ)) (exchange : Exchange σ) :
    Leads closes hooks exchange (keepPending tasks exchange).2 := by
  induction tasks generalizing exchange with
  | nil => exact .refl exchange
  | cons task tasks ih => exact exchange.pause_leads.trans (ih exchange.pause)

/-- Dropping the finished tasks keeps every answer. -/
theorem keepPending_answered (tasks : List (Task σ)) (exchange : Exchange σ) {key : Key}
    (answered : exchange.isAnswered key = true) :
    (keepPending tasks exchange).2.isAnswered key = true := by
  have asked : Leads anyKey anyHook exchange (keepPending tasks exchange).2 :=
    keepPending_leads tasks exchange
  exact asked.answered exchange.othersCloseOnly_anyKey answered

/-- Pruning keeps some of the tasks, each of which is pending when it is asked, and it keeps every
task that is still pending at the end. -/
theorem keepPending_request (tasks : List (RequestTask σ)) (exchange : Exchange σ) :
    ∃ kept : List (RequestTask σ),
      (keepPending (tasks.map .request) exchange).1 = kept.map .request ∧
      kept.Sublist tasks ∧ (∀ task ∈ kept, task.disconnected = false) ∧
      ∀ task ∈ tasks,
        task.isPending (keepPending (tasks.map .request) exchange).2 = true → task ∈ kept := by
  induction tasks generalizing exchange with
  | nil => exact ⟨[], rfl, .slnil, by simp, by simp⟩
  | cons task tasks ih =>
      obtain ⟨kept, same, sublist, stay, complete⟩ := ih exchange.pause
      have later : Leads anyKey noHook exchange.pause
          (keepPending (tasks.map .request) exchange.pause).2 := keepPending_leads _ _
      by_cases pending : task.isPending exchange.pause = true
      · refine ⟨task :: kept, ?_, sublist.cons_cons task, ?_, ?_⟩
        · simp [keepPending, Task.isPending, pending, same]
        · rintro held (_ | ⟨_, member⟩)
          · exact ((task.isPending_iff _).mp pending).2.1
          · exact stay held member
        · rintro held (_ | ⟨_, member⟩) still
          · exact List.mem_cons_self
          · exact List.mem_cons_of_mem _ (complete held member still)
      · refine ⟨kept, ?_, sublist.cons task, stay, ?_⟩
        · simp [keepPending, Task.isPending, pending, same]
        · rintro held (_ | ⟨_, member⟩) still
          · exact absurd (task.isPending_of_leads later still) pending
          · exact complete held member still

/-! ### Disconnecting -/

/-- The tasks of the client are marked, the others stay as they are. -/
theorem disconnectEach_fst (client : ClientId) (tasks : List (RequestTask σ))
    (exchange : Exchange σ) :
    (disconnectEach client (tasks.map .request) exchange).1 =
      (tasks.map (·.leave client)).map .request := by
  induction tasks generalizing exchange with
  | nil => rfl
  | cons task tasks ih =>
      by_cases own : task.request.client = client
      · simp [disconnectEach, Task.client, Task.disconnect, own, ih, RequestTask.leave,
          RequestTask.disconnect_fst]
      · simp [disconnectEach, Task.client, own, ih, RequestTask.leave]

/-- Disconnecting a client closes its requests and calls the hooks of those that hear it. -/
theorem disconnectEach_leads (client : ClientId) (tasks : List (RequestTask σ))
    (exchange : Exchange σ) (allowed : TasksCloseOnly closes tasks)
    (own : ∀ task ∈ tasks, task.request.client = client → closes task.key)
    (called : ∀ task ∈ tasks, task.hears client = true → hooks (.disconnect task.key)) :
    Leads closes hooks exchange (disconnectEach client (tasks.map .request) exchange).2 := by
  induction tasks generalizing exchange with
  | nil => exact .refl exchange
  | cons task tasks ih =>
      have rest := fun exchange => ih exchange
        (fun later member => allowed later (by simp [member]))
        (fun later member => own later (by simp [member]))
        (fun later member => called later (by simp [member]))
      by_cases leaves : task.request.client = client
      · have first : Leads closes hooks exchange (task.disconnect exchange).2 :=
          (task.disconnect_leads exchange (allowed task (by simp))
            (own task (by simp) leaves)).widen fun hook heard => by
              rw [heard.2]
              exact called task (by simp) (by simp [RequestTask.hears, leaves, heard.1])
        simpa [disconnectEach, Task.client, Task.disconnect, leaves] using first.trans (rest _)
      · simpa [disconnectEach, Task.client, leaves] using rest exchange

/-- Every task that hears of the disconnection has its hook called once. -/
theorem disconnectEach_count (client : ClientId) (tasks : List (RequestTask σ))
    (exchange : Exchange σ) (key : Key) :
    (disconnectEach client (tasks.map .request) exchange).2.calls.count (.disconnect key) =
      exchange.calls.count (.disconnect key) +
        tasks.countP fun task => task.hears client && task.key = key := by
  induction tasks generalizing exchange with
  | nil => rfl
  | cons task tasks ih =>
      rw [List.countP_cons]
      by_cases leaves : task.request.client = client
      · have first : (task.disconnect exchange).2.calls.count (.disconnect key) =
            exchange.calls.count (.disconnect key) +
              if task.hears client && task.key = key then 1 else 0 := by
          by_cases hit : task.key = key
          · subst hit
            rw [task.disconnect_count exchange]
            cases gone : task.disconnected <;> simp [RequestTask.hears, leaves, gone]
          · have other : Leads anyKey
                (fun hook => task.disconnected = false ∧ hook = .disconnect task.key) exchange
                (task.disconnect exchange).2 :=
              task.disconnect_leads exchange task.entrypoint.closesOnly_anyKey trivial
            rw [other.count_calls exchange.othersCloseOnly_anyKey (by simp [Ne.symm hit])]
            simp [hit]
        simp only [List.map_cons, disconnectEach, Task.client, Task.disconnect, leaves, if_true]
        rw [ih, first]
        omega
      · simp [disconnectEach, Task.client, leaves, ih, RequestTask.hears]

/-- The tasks of two lists are disconnected one list after the other. -/
theorem disconnectEach_append (client : ClientId) (first second : List (Task σ))
    (exchange : Exchange σ) :
    (disconnectEach client (first ++ second) exchange).2 =
      (disconnectEach client second (disconnectEach client first exchange).2).2 := by
  induction first generalizing exchange with
  | nil => rfl
  | cons task tasks ih => exact ih _

/-- The manager marks the tasks of the client in both lists, in order, and prunes the pending
ones. -/
theorem disconnect_request (queued pending : List (RequestTask σ)) (client : ClientId)
    (exchange : Exchange σ) :
    let left := (disconnectEach client ((queued ++ pending).map .request) exchange).2
    let pruned := keepPending ((pending.map (·.leave client)).map .request) left
    ∃ notice, disconnect ⟨queued.map .request, pending.map .request⟩ client exchange =
      (⟨(queued.map (·.leave client)).map .request, pruned.1⟩, pruned.2.log notice) := by
  intro left pruned
  refine ⟨.tasksDisconnected client
    ((queued.map Task.request ++ pending.map Task.request).countP (·.client = client)), ?_⟩
  simp only [disconnect, disconnectEach_fst, prune, pruned, left, List.map_append,
    disconnectEach_append]

/-! ### Cancelling -/

/-- Where a list is split at one of its tasks, that task has been cancelled. -/
structure Cancels (exchange : Exchange σ) (tasks : List (RequestTask σ))
    (outcome : Except Rpc.Error Unit) (cancelled : List (RequestTask σ)) (after : Exchange σ) :
    Prop where
  split : ∃ front task rest, tasks = front ++ task :: rest ∧
    cancelled = front ++ (task.cancel exchange).2.1 :: rest ∧
    outcome = (task.cancel exchange).1 ∧ after = (task.cancel exchange).2.2

/-- The first task of the list that answers the identifier is cancelled, and only that one. -/
theorem cancelFirst_split (client : ClientId) (id : Rpc.Id) (tasks : List (RequestTask σ))
    (exchange : Exchange σ) :
    cancelFirst client id (tasks.map .request) exchange = none ∨
      ∃ front task rest, tasks = front ++ task :: rest ∧
        task.request.client = client ∧ task.request.id = id ∧
        cancelFirst client id (tasks.map .request) exchange =
          some ((task.cancel exchange).1, (front ++ (task.cancel exchange).2.1 :: rest).map .request,
            (task.cancel exchange).2.2) := by
  induction tasks with
  | nil => exact .inl rfl
  | cons task tasks ih =>
      by_cases named : (Task.request task).isFor client id = true
      · have same : task.request.client = client ∧ task.request.id = id := by
          simpa [Task.isFor, Task.client, Task.id] using named
        exact .inr ⟨[], task, tasks, rfl, same.1, same.2,
          by simp [cancelFirst, named, Task.cancel]⟩
      · rcases ih with absent | ⟨front, found, rest, split, owner, answers, cut⟩
        · exact .inl (by simp [cancelFirst, named, absent])
        · exact .inr ⟨task :: front, found, rest, by simp [split], owner, answers,
            by simp [cancelFirst, named, cut]⟩

/-- Among request tasks the first one that matches is cancelled. -/
theorem cancelFirst_request (client : ClientId) (id : Rpc.Id) (tasks : List (RequestTask σ))
    (exchange : Exchange σ) :
    cancelFirst client id (tasks.map .request) exchange = none ∨
      ∃ outcome cancelled after, Cancels exchange tasks outcome cancelled after ∧
        cancelFirst client id (tasks.map .request) exchange =
          some (outcome, cancelled.map .request, after) :=
  (cancelFirst_split client id tasks exchange).imp_right
    fun ⟨front, task, rest, split, _, _, cut⟩ =>
      ⟨_, _, _, ⟨front, task, rest, split, rfl, rfl, rfl⟩, cut⟩

/-- Cancelling fails at once, or prunes and then cancels one task of the queue, one pending task
or none. -/
inductive CancelStep (queued pending : List (RequestTask σ)) (client : ClientId) (id : Rpc.Id)
    (exchange : Exchange σ) :
    Except Rpc.Error Unit × TaskManager σ × Exchange σ → Prop where
  | refused (error : Rpc.Error) :
      CancelStep queued pending client id exchange
        (.error error, ⟨queued.map .request, pending.map .request⟩, exchange)
  | absent (error : Rpc.Error) :
      CancelStep queued pending client id exchange
        (.error error, ⟨queued.map .request, (keepPending (pending.map .request) exchange).1⟩,
          (keepPending (pending.map .request) exchange).2)
  | queued (outcome : Except Rpc.Error Unit) (cancelled : List (RequestTask σ))
      (after : Exchange σ)
      (step : Cancels (keepPending (pending.map .request) exchange).2 queued outcome cancelled
        after) :
      CancelStep queued pending client id exchange
        (outcome, ⟨cancelled.map .request, (keepPending (pending.map .request) exchange).1⟩,
          reportCancel client id outcome after)
  | pending (kept : List (RequestTask σ)) (outcome : Except Rpc.Error Unit)
      (cancelled : List (RequestTask σ)) (after : Exchange σ)
      (same : (keepPending (pending.map .request) exchange).1 = kept.map .request)
      (sublist : kept.Sublist pending)
      (step : Cancels (keepPending (pending.map .request) exchange).2 kept outcome cancelled
        after) :
      CancelStep queued pending client id exchange
        (outcome, ⟨queued.map .request, cancelled.map .request⟩,
          reportCancel client id outcome after)

/-- With an identifier that is not empty, a cancellation drops the finished tasks and looks in the
queue before it looks among the pending ones. -/
theorem cancel_step (queued pending : List (RequestTask σ)) (client : ClientId) (id : Rpc.Id)
    (exchange : Exchange σ) :
    CancelStep queued pending client id exchange
      (cancel ⟨queued.map .request, pending.map .request⟩ client id exchange) := by
  unfold TaskManager.cancel
  split_ifs
  · exact .refused _
  · obtain ⟨kept, same, sublist, _⟩ := keepPending_request pending exchange
    dsimp only [prune]
    rcases cancelFirst_request client id queued (keepPending (pending.map .request) exchange).2
      with absent | ⟨outcome, cancelled, after, step, found⟩
    · rw [absent, same]
      dsimp only
      rcases cancelFirst_request client id kept (keepPending (pending.map .request) exchange).2
        with absent | ⟨outcome, cancelled, after, step, found⟩
      · rw [absent, ← same]
        exact .absent _
      · rw [found]
        exact .pending kept outcome cancelled after same sublist step
    · rw [found]
      exact .queued outcome cancelled after step

/-- The report of a cancellation closes nothing and calls no hook. -/
theorem reportCancel_leads (client : ClientId) (id : Rpc.Id) (outcome : Except Rpc.Error Unit)
    (exchange : Exchange σ) :
    Leads closes hooks exchange (reportCancel client id outcome exchange) := by
  unfold reportCancel
  split
  · exact (Leads.refl exchange).log _
  · exact .refl exchange

/-- Cancelling one task calls no hook but a cancel hook. -/
theorem Cancels.leads {tasks cancelled : List (RequestTask σ)} {outcome : Except Rpc.Error Unit}
    {exchange after : Exchange σ} (step : Cancels exchange tasks outcome cancelled after)
    (allowed : TasksCloseOnly closes tasks) :
    Leads closes (fun hook => ∃ key, hook = .cancel key) exchange after := by
  obtain ⟨front, task, rest, rfl, _, _, rfl⟩ := step.split
  exact (task.cancel_leads exchange (allowed task (by simp))).widen fun hook same =>
    ⟨task.key, same⟩

/-- Cancelling calls no hook but a cancel hook. -/
theorem cancel_leads (queued pending : List (RequestTask σ)) (client : ClientId) (id : Rpc.Id)
    (exchange : Exchange σ) (allowed : TasksCloseOnly closes (queued ++ pending)) :
    Leads closes (fun hook => ∃ key, hook = .cancel key) exchange
      (cancel ⟨queued.map .request, pending.map .request⟩ client id exchange).2.2 := by
  have pruned : Leads closes (fun hook => ∃ key, hook = .cancel key) exchange
      (keepPending (pending.map .request) exchange).2 := keepPending_leads _ _
  have step := cancel_step queued pending client id exchange
  generalize cancel ⟨queued.map .request, pending.map .request⟩ client id exchange = result
    at step ⊢
  cases step with
  | refused error => exact .refl exchange
  | absent error => exact pruned
  | queued outcome cancelled after step =>
      have marked : Leads closes (fun hook => ∃ key, hook = .cancel key) _ after :=
        step.leads fun task member => allowed task (by simp [member])
      exact (pruned.trans marked).trans (reportCancel_leads client id outcome after)
  | pending kept outcome cancelled after same sublist step =>
      have marked : Leads closes (fun hook => ∃ key, hook = .cancel key) _ after :=
        step.leads fun task member => allowed task (by simp [sublist.subset member])
      exact (pruned.trans marked).trans (reportCancel_leads client id outcome after)

end TaskManager

end RpcDispatch
