import RpcDispatch.Proofs.Exchange.Faults
import RpcDispatch.Task.Manager

/-
This file shows that the tasks and their manager are in the same states whether or not texts
arrive.
-/

namespace RpcDispatch

open Exchange (Matches Agree)

variable {σ : Type} {first second : Exchange σ}

/-! ### Single tasks -/

namespace RequestTask

/-- Calling the request hook leads to the same, whether or not texts arrive. -/
theorem invoke_matches (task : RequestTask σ) (alike : first.Matches second) :
    (task.invoke first).Matches (task.invoke second) := by
  have called := alike.callRequest task.entrypoint task.key task.request
  unfold invoke
  dsimp only
  generalize first.callRequest task.entrypoint task.key task.request = left at called ⊢
  generalize second.callRequest task.entrypoint task.key task.request = right at called ⊢
  obtain ⟨outcome, left⟩ := left
  obtain ⟨_, right⟩ := right
  obtain ⟨rfl, later⟩ := called
  dsimp only
  split
  · exact later
  · exact (later.log _).pause.error task.key _

/-- A task of a request runs in the same way. -/
theorem run_agrees (task : RequestTask σ) (alike : first.Matches second) :
    Agree (task.run first) (task.run second) := by
  unfold RequestTask.run
  dsimp only
  split_ifs
  · exact ⟨rfl, alike.log _⟩
  · exact ⟨rfl, alike.pause.error task.key .taskCancelled⟩
  · exact ⟨rfl, alike⟩
  · exact ⟨rfl, task.invoke_matches (alike.log _)⟩

/-- Its cancellation has the same outcome. -/
theorem cancel_agrees (task : RequestTask σ) (alike : first.Matches second) :
    (task.cancel first).1 = (task.cancel second).1 ∧
      Agree (task.cancel first).2 (task.cancel second).2 := by
  unfold RequestTask.cancel
  dsimp only
  split_ifs
  · exact ⟨rfl, rfl, alike⟩
  · exact ⟨rfl, rfl, alike⟩
  · exact ⟨rfl, rfl, alike.callCancel task.entrypoint task.key⟩
  · exact ⟨rfl, rfl, alike⟩

/-- Its client leaves it in the same way. -/
theorem disconnect_agrees (task : RequestTask σ) (alike : first.Matches second) :
    Agree (task.disconnect first) (task.disconnect second) := by
  have called := (alike.pause.close task.key).callDisconnect task.entrypoint task.key
  unfold RequestTask.disconnect
  dsimp only
  generalize (first.pause.close task.key).callDisconnect task.entrypoint task.key = left
    at called ⊢
  generalize (second.pause.close task.key).callDisconnect task.entrypoint task.key = right
    at called ⊢
  obtain ⟨failure, left⟩ := left
  obtain ⟨_, right⟩ := right
  obtain ⟨rfl, later⟩ := called
  split_ifs
  · exact ⟨rfl, alike⟩
  · cases failure with
    | none => exact ⟨rfl, later⟩
    | some failure => exact ⟨rfl, later.log _⟩

/-- Whether it is pending does not depend on the fate of texts. -/
theorem isPending_eq (task : RequestTask σ) (alike : first.Matches second) :
    task.isPending first = task.isPending second := by
  unfold isPending isAnswered
  rw [alike.channel? task.key]

end RequestTask

/-- A consumer is given a chunk in the same way. -/
theorem ChunkTask.run_matches (task : ChunkTask σ) (alike : first.Matches second) :
    (task.run first).Matches (task.run second) := by
  have called := alike.callConsumer task.consumer task.client task.bytes
  unfold ChunkTask.run
  generalize first.callConsumer task.consumer task.client task.bytes = left at called ⊢
  generalize second.callConsumer task.consumer task.client task.bytes = right at called ⊢
  obtain ⟨rejection, left⟩ := left
  obtain ⟨_, right⟩ := right
  obtain ⟨rfl, later⟩ := called
  cases rejection with
  | none => exact later
  | some error => exact later.log _

namespace Task

/-- Whatever its kind, a task runs in the same way. -/
theorem run_agrees (task : Task σ) (alike : first.Matches second) :
    Agree (task.run first) (task.run second) := by
  cases task with
  | request task =>
      have ran := task.run_agrees alike
      exact ⟨congrArg Task.request ran.result, ran.exchange⟩
  | chunk task => exact ⟨rfl, task.run_matches alike⟩
  | external task => exact ⟨rfl, (alike.run task.run).exchange⟩

/-- Cancelling a task of any kind has the same outcome. -/
theorem cancel_agrees (task : Task σ) (alike : first.Matches second) :
    (task.cancel first).1 = (task.cancel second).1 ∧
      Agree (task.cancel first).2 (task.cancel second).2 := by
  cases task with
  | request task =>
      obtain ⟨outcome, cancelled⟩ := task.cancel_agrees alike
      exact ⟨outcome, congrArg Task.request cancelled.result, cancelled.exchange⟩
  | chunk task => exact ⟨rfl, rfl, alike⟩
  | external task =>
      have cancelled := alike.run task.cancel
      exact ⟨cancelled.result, rfl, cancelled.exchange⟩

theorem disconnect_agrees (task : Task σ) (alike : first.Matches second) :
    Agree (task.disconnect first) (task.disconnect second) := by
  cases task with
  | request task =>
      have left := task.disconnect_agrees alike
      exact ⟨congrArg Task.request left.result, left.exchange⟩
  | chunk task => exact ⟨rfl, alike⟩
  | external task => exact ⟨rfl, (alike.run task.disconnect).exchange⟩

theorem isPending_eq (task : Task σ) (alike : first.Matches second) :
    task.isPending first = task.isPending second := by
  cases task with
  | request task => exact task.isPending_eq alike
  | chunk task => rfl
  | external task => exact congrArg task.isPending alike.state

end Task

/-! ### The manager -/

namespace TaskManager

/-- The same tasks are kept as pending. -/
theorem keepPending_agrees (tasks : List (Task σ)) (alike : first.Matches second) :
    Agree (keepPending tasks first) (keepPending tasks second) := by
  induction tasks generalizing first second with
  | nil => exact ⟨rfl, alike⟩
  | cons task tasks ih =>
      have rest := ih alike.pause
      constructor
      · show (if task.isPending first.pause then _ else _) =
          (if task.isPending second.pause then _ else _)
        rw [task.isPending_eq alike.pause, rest.result]
      · exact rest.exchange

theorem prune_agrees {left right : TaskManager σ} (same : left = right)
    (alike : first.Matches second) : Agree (left.prune first) (right.prune second) := by
  obtain rfl := same
  have kept := keepPending_agrees left.pending alike
  exact ⟨congrArg (TaskManager.mk left.queue) kept.result, kept.exchange⟩

theorem retain_agrees (pending : List (Task σ)) (task : Task σ) (alike : first.Matches second) :
    Agree (retain pending task first) (retain pending task second) := by
  constructor
  · show (if task.isPending first.pause then _ else _) =
      (if task.isPending second.pause then _ else _)
    rw [task.isPending_eq alike.pause]
  · exact alike.pause

/-- A task runs, and it is retained in both runs or in none. -/
theorem runFirst_agrees (pending : List (Task σ)) (task : Task σ) (alike : first.Matches second) :
    Agree (retain pending (task.run first).1 (task.run first).2)
      (retain pending (task.run second).1 (task.run second).2) := by
  have ran := task.run_agrees alike
  rw [← ran.result]
  exact retain_agrees pending _ ran.exchange

/-- A task that is added runs at once or waits in both exchanges. -/
theorem add_agrees (manager : TaskManager σ) (task : Task σ) (alike : first.Matches second) :
    Agree (manager.add task first) (manager.add task second) := by
  unfold TaskManager.add
  split_ifs
  · have ran := runFirst_agrees manager.pending task
      (alike.log (.runningPriority task.client task.method))
    exact ⟨congrArg (TaskManager.mk manager.queue) ran.result, ran.exchange⟩
  · exact ⟨rfl, alike.log _⟩

/-- The queue is drained in the same way, and the same tasks are held afterwards. -/
theorem drain_agrees (queue pending : List (Task σ)) (alike : first.Matches second) :
    Agree (drain queue pending first) (drain queue pending second) := by
  induction queue generalizing pending first second with
  | nil => exact ⟨rfl, alike⟩
  | cons task queue ih =>
      have ran := runFirst_agrees pending task alike
      show Agree (drain queue (retain pending (task.run first).1 (task.run first).2).1 _)
        (drain queue (retain pending (task.run second).1 (task.run second).2).1 _)
      rw [← ran.result]
      exact ih _ ran.exchange

/-- Running the queue holds the same tasks. -/
theorem runAll_agrees (manager : TaskManager σ) (alike : first.Matches second) :
    Agree (manager.runAll first) (manager.runAll second) := by
  have drained := drain_agrees manager.queue manager.pending alike
  exact prune_agrees (congrArg (TaskManager.mk []) drained.result) drained.exchange

/-- The tasks of a client hear in the same way that it has left. -/
theorem disconnectEach_agrees (client : ClientId) (tasks : List (Task σ))
    (alike : first.Matches second) :
    Agree (disconnectEach client tasks first) (disconnectEach client tasks second) := by
  induction tasks generalizing first second with
  | nil => exact ⟨rfl, alike⟩
  | cons task tasks ih =>
      have one : Agree (if task.client = client then task.disconnect first else (task, first))
          (if task.client = client then task.disconnect second else (task, second)) := by
        split_ifs
        · exact task.disconnect_agrees alike
        · exact ⟨rfl, alike⟩
      have rest := ih one.exchange
      exact ⟨congrArg₂ List.cons one.result rest.result, rest.exchange⟩

/-- So does the manager. -/
theorem disconnect_agrees (manager : TaskManager σ) (client : ClientId)
    (alike : first.Matches second) :
    Agree (manager.disconnect client first) (manager.disconnect client second) := by
  have queued := disconnectEach_agrees client manager.queue alike
  have gone := disconnectEach_agrees client manager.pending queued.exchange
  have pruned := prune_agrees (congrArg₂ TaskManager.mk queued.result gone.result) gone.exchange
  exact ⟨pruned.result, pruned.exchange.log _⟩

/-! ### Cancelling -/

/-- The same task of a list is cancelled, if there is one. -/
theorem cancelFirst_agrees (client : ClientId) (id : Rpc.Id) (tasks : List (Task σ))
    (alike : first.Matches second) :
    (cancelFirst client id tasks first = none ∧ cancelFirst client id tasks second = none) ∨
      ∃ outcome cancelled left right, left.Matches right ∧
        cancelFirst client id tasks first = some (outcome, cancelled, left) ∧
        cancelFirst client id tasks second = some (outcome, cancelled, right) := by
  induction tasks with
  | nil => exact .inl ⟨rfl, rfl⟩
  | cons task tasks ih =>
      by_cases named : task.isFor client id = true
      · obtain ⟨outcome, cancelled⟩ := task.cancel_agrees alike
        right
        refine ⟨(task.cancel first).1, (task.cancel first).2.1 :: tasks, _, _,
          cancelled.exchange, ?_, ?_⟩
        · simp [cancelFirst, named]
        · simp [cancelFirst, named, outcome, cancelled.result]
      · rcases ih with ⟨one, other⟩ | ⟨outcome, cancelled, left, right, later, one, other⟩
        · exact .inl ⟨by simp [cancelFirst, named, one], by simp [cancelFirst, named, other]⟩
        · exact .inr ⟨outcome, task :: cancelled, left, right, later,
            by simp [cancelFirst, named, one], by simp [cancelFirst, named, other]⟩

/-- The report of a cancellation tells its outcome, and not what became of texts. -/
theorem reportCancel_matches (client : ClientId) (id : Rpc.Id) (outcome : Except Rpc.Error Unit)
    (alike : first.Matches second) :
    (reportCancel client id outcome first).Matches (reportCancel client id outcome second) := by
  cases outcome with
  | ok => exact alike.log _
  | error error => exact alike

/-- A cancellation finds the same task, and has the same outcome. -/
theorem cancel_agrees (manager : TaskManager σ) (client : ClientId) (id : Rpc.Id)
    (alike : first.Matches second) :
    (manager.cancel client id first).1 = (manager.cancel client id second).1 ∧
      Agree (manager.cancel client id first).2 (manager.cancel client id second).2 := by
  have pruned := prune_agrees (rfl : manager = manager) alike
  unfold TaskManager.cancel
  split_ifs
  · exact ⟨rfl, rfl, alike⟩
  · generalize manager.prune first = left at pruned ⊢
    generalize manager.prune second = right at pruned ⊢
    obtain ⟨kept, left⟩ := left
    obtain ⟨_, right⟩ := right
    obtain ⟨rfl, asked⟩ := pruned
    dsimp only at asked ⊢
    rcases cancelFirst_agrees client id kept.queue asked with
      ⟨one, other⟩ | ⟨outcome, cancelled, left, right, later, one, other⟩
    · rw [one, other]
      dsimp only
      rcases cancelFirst_agrees client id kept.pending asked with
        ⟨one, other⟩ | ⟨outcome, cancelled, left, right, later, one, other⟩
      · rw [one, other]
        exact ⟨rfl, rfl, asked⟩
      · rw [one, other]
        exact ⟨rfl, rfl, reportCancel_matches client id outcome later⟩
    · rw [one, other]
      exact ⟨rfl, rfl, reportCancel_matches client id outcome later⟩

end TaskManager

end RpcDispatch
