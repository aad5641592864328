import RpcDispatch.Proofs.Task.Withdrawal

/-
This file says when cancelling is refused.  In a manager that holds tasks for requests only, it
either stops the first task with the identifier, or it is refused for its params and every task
stays as it was.
-/

namespace RpcDispatch

variable {σ : Type}

/-- A task that does not allow it refuses to be cancelled because of the params that name it. -/
theorem RequestTask.cancel_refused {task : RequestTask σ} {exchange : Exchange σ}
    (barred : ¬ (Task.request task).AllowsCancel exchange) :
    ∃ message, task.cancel exchange = (.error (.invalidParams message []), task, exchange) := by
  unfold cancel
  dsimp only
  split
  · exact ⟨_, rfl⟩
  · next isAsync =>
      split
      · exact ⟨_, rfl⟩
      · next unmarked =>
          exact absurd ⟨by simpa using isAsync, by simpa using unmarked⟩ barred

namespace TaskManager

variable {since : Key} {added : List (RequestTask σ)} {manager : TaskManager σ} {client : ClientId}
  {id : Rpc.Id} {exchange : Exchange σ}

/-- A manager with an account holds tasks for requests, which are running once they have run. -/
theorem Accounts.held (accounts : manager.Accounts since added exchange) {ran : Bool}
    {task : Task σ} (member : task ∈ manager.tasks ran) :
    ∃ held : RequestTask σ, task = .request held ∧ held.running = ran := by
  obtain ⟨queued, pending, rfl, ledger, _⟩ := accounts
  cases ran with
  | false =>
      obtain ⟨held, waits, rfl⟩ := List.mem_map.mp member
      exact ⟨held, rfl, (ledger.waiting held waits).1⟩
  | true =>
      obtain ⟨held, ran, rfl⟩ := List.mem_map.mp member
      exact ⟨held, rfl, (ledger.started held ran).1⟩

/-- The first task with the identifier, in the queue and then among the tasks that are still
pending, can be cancelled. -/
def Cancellable (manager : TaskManager σ) (client : ClientId) (id : Rpc.Id)
    (exchange : Exchange σ) : Prop :=
  ∃ task, manager.target? client id exchange = some task ∧
    task.AllowsCancel (manager.prune exchange).2

/-- Where no task has the identifier, the pending tasks are asked and nothing else is done. -/
theorem cancel_missing (named : id.isEmpty = false)
    (missing : manager.target? client id exchange = none) :
    manager.cancel client id exchange =
      (.error (.invalidParams s!"No task found with id {id.display}" []),
        manager.prune exchange) := by
  have apart : ∀ task ∈ (manager.prune exchange).1.queue ++ (manager.prune exchange).1.pending,
      task.isFor client id = false := by
    intro task member
    simpa using List.find?_eq_none.mp missing task member
  have absent {tasks : List (Task σ)} (held : ∀ task ∈ tasks,
      task ∈ (manager.prune exchange).1.queue ++ (manager.prune exchange).1.pending) :
      cancelFirst client id tasks (manager.prune exchange).2 = none := by
    rcases cancelFirst_cases client id tasks (manager.prune exchange).2 with
      ⟨none, _⟩ | ⟨front, found, rest, split, _, hit, _⟩
    · exact none
    · rw [apart found (held found (by simp [split]))] at hit
      cases hit
  have queue := absent fun _ => List.mem_append_left (manager.prune exchange).1.pending
  have pending := absent fun _ => List.mem_append_right (manager.prune exchange).1.queue
  unfold TaskManager.cancel
  rw [if_neg (by simp [named])]
  dsimp only
  rw [queue]
  dsimp only
  rw [pending]

/-- What a cancellation leaves behind that is refused for its params: every task is as it was,
unless it is forgotten because it is no longer pending. -/
structure Refused (manager : TaskManager σ) (exchange : Exchange σ)
    (result : Except Rpc.Error Unit × TaskManager σ × Exchange σ) : Prop where
  error : ∃ message, result.1 = .error (.invalidParams message [])
  queue : result.2.1.queue = manager.queue
  pending : result.2.1.pending.Sublist manager.pending
  asked : result.2.2 = exchange ∨ result.2.2 = (manager.prune exchange).2

theorem refused_prune (message : String) :
    manager.Refused exchange (.error (.invalidParams message []), manager.prune exchange) where
  error := ⟨message, rfl⟩
  queue := rfl
  pending := (keepPending_sublist manager.pending exchange).1
  asked := .inr rfl

/-- Every task is that of a request. -/
def HoldsRequests (manager : TaskManager σ) : Prop :=
  ∀ ran, ∀ task ∈ manager.tasks ran, ∃ held, task = .request held

theorem Accounts.holdsRequests (accounts : manager.Accounts since added exchange) :
    manager.HoldsRequests := by
  intro ran task member
  obtain ⟨held, same, _⟩ := accounts.held member
  exact ⟨held, same⟩

/-- Cancelling is refused unless there is an identifier and its first task can be cancelled. -/
theorem HoldsRequests.cancel_refused (holds : manager.HoldsRequests)
    (barred : id.isEmpty = false → ¬ manager.Cancellable client id exchange) :
    manager.Refused exchange (manager.cancel client id exchange) := by
  rcases manager.cancel_cases client id exchange with
    ⟨_, same⟩ | ⟨named, missing, _⟩ | ⟨ran, front, found, rest, split, target, same, _⟩
  · rw [same]
    exact ⟨⟨_, rfl⟩, rfl, .refl _, .inl rfl⟩
  · rw [cancel_missing named missing]
    exact refused_prune _
  · cases named : id.isEmpty with
    | true =>
        simp only [TaskManager.cancel, named, if_true]
        exact ⟨⟨_, rfl⟩, rfl, .refl _, .inl rfl⟩
    | false =>
        have member : found ∈ (manager.prune exchange).1.tasks ran := by simp [split]
        obtain ⟨held, rfl⟩ := holds ran found (mem_of_prune member)
        obtain ⟨message, cut⟩ := RequestTask.cancel_refused fun allowed =>
          barred named ⟨_, target, allowed⟩
        have whole := withTasks_tasks (manager.prune exchange).1 ran
        rw [split] at whole
        rw [same]
        simp only [Task.cancel, cut, whole, reportCancel]
        exact refused_prune message

/-- A cancellation that is not refused marks its task. -/
theorem HoldsRequests.cancel_marks (holds : manager.HoldsRequests)
    (able : manager.Cancellable client id exchange) (named : id.isEmpty = false) :
    (manager.cancel client id exchange).2.1 ≠ manager := by
  obtain ⟨task, target, allowed⟩ := able
  rcases manager.cancel_cases client id exchange with
    ⟨empty, _⟩ | ⟨_, missing, _⟩ | ⟨ran, front, found, rest, split, hit, same, _⟩
  · rw [named] at empty
    cases empty
  · rw [target] at missing
    cases missing
  · rw [target] at hit
    cases hit
    have member : task ∈ (manager.prune exchange).1.tasks ran := by simp [split]
    obtain ⟨held, rfl⟩ := holds ran task (mem_of_prune member)
    rcases held.cancel_cases (manager.prune exchange).2 with ⟨error, cut⟩ | ⟨_, cut⟩
    · have able : held.entrypoint.isAsync = true ∧ held.cancelled = false := allowed
      simp [RequestTask.cancel, able] at cut
    · intro unchanged
      have tasks : manager.tasks ran =
          front ++ .request { held with cancelled := true } :: rest := by
        rw [← unchanged, same]
        simp only [Task.cancel, cut, tasks_withTasks, if_true]
      -- nothing was forgotten, since what is left is as long as what there was
      have kept := tasks_prune_sublist manager exchange ran
      rw [split, tasks] at kept
      have whole := kept.eq_of_length (by simp)
      rw [List.append_cancel_left_eq, List.cons.injEq] at whole
      have mark : held.cancelled = true :=
        congrArg RequestTask.cancelled (Task.request.inj whole.1)
      have unmarked : held.cancelled = false := allowed.2
      rw [mark] at unmarked
      cases unmarked

/-- A cancellation that is not refused shows: its task is marked in the queue, or the cancel hook of
its entrypoint is called. -/
theorem Accounts.cancel_shows (accounts : manager.Accounts since added exchange)
    (able : manager.Cancellable client id exchange) (named : id.isEmpty = false) :
    (manager.cancel client id exchange).2.1.queue ≠ manager.queue ∨
      (manager.cancel client id exchange).2.2.calls ≠ exchange.calls := by
  obtain ⟨task, target, allowed⟩ := able
  rcases manager.cancel_cases client id exchange with
    ⟨empty, _⟩ | ⟨_, missing, _⟩ | ⟨ran, front, found, rest, split, hit, same, _⟩
  · rw [named] at empty
    cases empty
  · rw [target] at missing
    cases missing
  · rw [target] at hit
    cases hit
    have member : task ∈ (manager.prune exchange).1.tasks ran := by simp [split]
    obtain ⟨held, rfl, running⟩ := accounts.held (mem_of_prune member)
    rcases (Task.request held).cancel_exact (manager.prune exchange).2 running with
      ⟨_, cut⟩ | ⟨barred, _⟩
    · rw [same, cut]
      cases ran with
      | false =>
          left
          have queue : manager.queue = front ++ .request held :: rest := split
          show front ++ (Task.request held).marked :: rest ≠ manager.queue
          intro whole
          rw [queue, List.append_cancel_left_eq, List.cons.injEq] at whole
          have mark : true = held.cancelled :=
            congrArg RequestTask.cancelled (Task.request.inj whole.1)
          rw [allowed.2] at mark
          cases mark
      | true =>
          right
          have quiet : Exchange.Leads anyKey noHook exchange (manager.prune exchange).2 :=
            keepPending_leads manager.pending exchange
          show (((Task.request held).stopped true _).log _).calls ≠ exchange.calls
          rw [Exchange.log_calls, Task.stopped_calls,
            quiet.calls_quiet exchange.othersCloseOnly_anyKey]
          simp [Task.stopHooks]
    · exact absurd allowed barred

end TaskManager

end RpcDispatch
