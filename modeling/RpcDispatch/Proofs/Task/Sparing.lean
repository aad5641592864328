import RpcDispatch.Proofs.Task.History

/-
This file shows that a task that was cancelled in the queue is answered when the queue is drained.
Its request has not been handed out, so all other tasks leave it alone until then.
-/

namespace RpcDispatch

open Exchange (Leads Grows Untouched)
open Stage (Path)

variable {σ : Type} {valid : σ → Prop} {key : Key}

/-- A task that leaves a request alone, unless it is the task of this request. -/
def Task.Spares (valid : σ → Prop) (key : Key) : Task σ → Prop
  | .request task => task.entrypoint.Spares valid key
  | .chunk task => (task.consumer task.client task.bytes).Spares valid key
  | .external task =>
    task.run.Spares valid key ∧ task.cancel.Spares valid key ∧ task.disconnect.Spares valid key

namespace Task

variable {task : Task σ} {exchange : Exchange σ}

/-- What is done to a task leaves it the same entrypoint and scripts. -/
theorem Spares.run (spares : task.Spares valid key) : (task.run exchange).1.Spares valid key := by
  cases task with
  | request held =>
      have same : (held.run exchange).1.entrypoint = held.entrypoint :=
        (held.run_same exchange).entrypoint
      change (held.run exchange).1.entrypoint.Spares valid key
      rw [same]
      exact spares
  | chunk held => exact spares
  | external held => exact spares

/-- A cancelled task spares the request as before. -/
theorem Spares.cancel (spares : task.Spares valid key) :
    (task.cancel exchange).2.1.Spares valid key := by
  cases task with
  | request held =>
      have same : (held.cancel exchange).2.1.entrypoint = held.entrypoint :=
        (held.cancel_alike exchange).entrypoint
      change (held.cancel exchange).2.1.entrypoint.Spares valid key
      rw [same]
      exact spares
  | chunk held => exact spares
  | external held => exact spares

/-- A disconnected task spares the request as before. -/
theorem Spares.disconnect (spares : task.Spares valid key) :
    (task.disconnect exchange).1.Spares valid key := by
  cases task with
  | request held =>
      change (held.disconnect exchange).1.entrypoint.Spares valid key
      rw [held.disconnect_fst exchange]
      exact spares
  | chunk held => exact spares
  | external held => exact spares

end Task

namespace RequestTask

variable {task : RequestTask σ} {exchange : Exchange σ}

/-- Running the task of another request leaves this one untouched. -/
theorem run_untouched (untouched : exchange.Untouched valid key)
    (spares : task.entrypoint.Spares valid key) (other : task.key ≠ key) :
    (task.run exchange).2.Untouched valid key := by
  have called (started : Exchange σ) (before : started.Untouched valid key) :
      (started.callRequest task.entrypoint task.key task.request).2.Untouched valid key :=
    Untouched.run (before.record rfl) (spares.onRequest task.key task.request other)
  unfold run
  dsimp only
  split_ifs
  · exact untouched.log _
  · exact untouched.pause.error other _
  · exact untouched
  · have ran := called _ (untouched.log (.taskRunning task.request.client task.request.id
      task.request.method))
    unfold invoke
    dsimp only
    split
    · exact ran
    · exact (ran.log _).pause.error other _

/-- The cancellation of another request task leaves the request untouched. -/
theorem cancel_untouched (untouched : exchange.Untouched valid key)
    (spares : task.entrypoint.Spares valid key) :
    (task.cancel exchange).2.2.Untouched valid key := by
  rcases task.cancel_cases exchange with ⟨error, same⟩ | ⟨_, same⟩
  · rw [same]
    exact untouched
  · rw [same]
    dsimp only
    split_ifs
    · exact Untouched.run (untouched.record rfl) spares.onCancel
    · exact untouched

/-- The disconnection of another request task leaves the request untouched. -/
theorem disconnect_untouched (untouched : exchange.Untouched valid key)
    (spares : task.entrypoint.Spares valid key) (other : task.key ≠ key) :
    (task.disconnect exchange).2.Untouched valid key := by
  have called : ((exchange.pause.close task.key).callDisconnect task.entrypoint
      task.key).2.Untouched valid key :=
    Untouched.run ((untouched.pause.close other).record rfl) spares.onDisconnect
  unfold disconnect
  dsimp only
  split_ifs
  · exact untouched
  · split
    · next result => rwa [result] at called
    · next failure result =>
        rw [result] at called
        exact called.log _

end RequestTask

namespace Task

variable {task : Task σ} {exchange : Exchange σ}

/-- Running another task leaves the request untouched. -/
theorem run_untouched (untouched : exchange.Untouched valid key) (spares : task.Spares valid key)
    (other : task.form? key = none) : (task.run exchange).2.Untouched valid key := by
  cases task with
  | request held =>
      exact held.run_untouched untouched spares (form?_request_eq_none.mp other)
  | chunk held =>
      have called : (exchange.callConsumer held.consumer held.client held.bytes).2.Untouched valid
          key := Untouched.run (untouched.record rfl) spares
      change (held.run exchange).Untouched valid key
      unfold ChunkTask.run
      split
      · next result => rwa [result] at called
      · next error result =>
          rw [result] at called
          exact called.log _
  | external held => exact Untouched.run untouched spares.1

/-- The cancellation of another task leaves the request untouched. -/
theorem cancel_untouched (untouched : exchange.Untouched valid key)
    (spares : task.Spares valid key) : (task.cancel exchange).2.2.Untouched valid key := by
  cases task with
  | request held => exact held.cancel_untouched untouched spares
  | chunk held => exact untouched
  | external held => exact Untouched.run untouched spares.2.1

/-- The disconnection of another task leaves the request untouched. -/
theorem disconnect_untouched (untouched : exchange.Untouched valid key)
    (spares : task.Spares valid key) (other : task.form? key = none) :
    (task.disconnect exchange).2.Untouched valid key := by
  cases task with
  | request held =>
      exact held.disconnect_untouched untouched spares (form?_request_eq_none.mp other)
  | chunk held => exact untouched
  | external held => exact Untouched.run untouched spares.2.2

end Task

/-! ### The manager -/

/-- The request is untouched, and all tasks of the manager leave it alone. -/
structure TaskManager.Undisturbed (valid : σ → Prop) (key : Key)
    (state : TaskManager σ × Exchange σ) : Prop where
  untouched : state.2.Untouched valid key
  spared : ∀ ran, ∀ task ∈ state.1.tasks ran, task.Spares valid key

namespace TaskManager

variable {manager : TaskManager σ} {exchange : Exchange σ}

/-- Where tasks of one list are replaced by others that spare the request, it stays undisturbed. -/
theorem Undisturbed.withTasks (undisturbed : Undisturbed valid key (manager, exchange)) (ran : Bool)
    {tasks : List (Task σ)} (spared : ∀ task ∈ tasks, task.Spares valid key) {after : Exchange σ}
    (untouched : after.Untouched valid key) :
    Undisturbed valid key (manager.withTasks ran tasks, after) := by
  refine ⟨untouched, fun list task member => ?_⟩
  rw [tasks_withTasks] at member
  split_ifs at member
  · exact spared task member
  · exact undisturbed.spared list task member

/-- Dropping the finished tasks leaves every request untouched. -/
theorem keepPending_untouched (tasks : List (Task σ)) (untouched : exchange.Untouched valid key) :
    (keepPending tasks exchange).2.Untouched valid key := by
  induction tasks generalizing exchange with
  | nil => exact untouched
  | cons task tasks ih => exact ih untouched.pause

/-- Dropping the finished tasks disturbs no request. -/
theorem Undisturbed.prune (undisturbed : Undisturbed valid key (manager, exchange)) :
    Undisturbed valid key (manager.prune exchange) := by
  have sublist := (keepPending_sublist manager.pending exchange).1
  exact undisturbed.withTasks true
    (fun task member => undisturbed.spared true task (sublist.subset member))
    (keepPending_untouched manager.pending undisturbed.untouched)

/-- A task that has run is retained or not. -/
theorem Undisturbed.retain (undisturbed : Undisturbed valid key (manager, exchange))
    {task : Task σ} (spares : task.Spares valid key) {after : Exchange σ}
    (untouched : after.Untouched valid key) :
    Undisturbed valid key (manager.withTasks true (retain manager.pending task after).1,
      (retain manager.pending task after).2) := by
  refine undisturbed.withTasks true (fun held member => ?_) untouched.pause
  unfold TaskManager.retain at member
  dsimp only at member
  split_ifs at member
  · rcases List.mem_append.mp member with old | new
    · exact undisturbed.spared true held old
    · rw [List.mem_singleton.mp new]
      exact spares
  · exact undisturbed.spared true held member

/-- Another task that runs leaves the request alone. -/
theorem Undisturbed.runFirst {first : Task σ} {queue pending : List (Task σ)}
    (undisturbed : Undisturbed valid key (⟨first :: queue, pending⟩, exchange))
    (other : first.form? key = none) :
    let ran := first.run exchange
    Undisturbed valid key (⟨queue, (TaskManager.retain pending ran.1 ran.2).1⟩,
      (TaskManager.retain pending ran.1 ran.2).2) := by
  intro ran
  have spares := undisturbed.spared false first List.mem_cons_self
  have rest : Undisturbed valid key (⟨queue, pending⟩, exchange) :=
    undisturbed.withTasks false (fun task member =>
      undisturbed.spared false task (List.mem_cons_of_mem _ member)) undisturbed.untouched
  exact rest.retain spares.run (first.run_untouched undisturbed.untouched spares other)

/-- Draining a queue without the request does not disturb it. -/
theorem Undisturbed.drain {queue pending : List (Task σ)}
    (undisturbed : Undisturbed valid key (⟨queue, pending⟩, exchange))
    (others : Task.forms key queue = []) :
    Undisturbed valid key (⟨[], (drain queue pending exchange).1⟩,
      (drain queue pending exchange).2) := by
  induction queue generalizing pending exchange with
  | nil => exact undisturbed
  | cons first queue ih =>
      have other := List.filterMap_eq_nil_iff.mp others
      refine ih (undisturbed.runFirst (other first List.mem_cons_self)) ?_
      exact List.filterMap_eq_nil_iff.mpr fun task member =>
        other task (List.mem_cons_of_mem _ member)

/-- Running a queue without the request does not disturb it. -/
theorem Undisturbed.runAll (undisturbed : Undisturbed valid key (manager, exchange))
    (others : Task.forms key manager.queue = []) :
    Undisturbed valid key (manager.runAll exchange) :=
  (Undisturbed.drain undisturbed others).prune

/-- A cancellation does not act on a request that it does not reach. -/
theorem Undisturbed.cancel (undisturbed : Undisturbed valid key (manager, exchange))
    (client : ClientId) (id : Rpc.Id) :
    Undisturbed valid key (manager.cancel client id exchange).2 := by
  have pruned := undisturbed.prune
  rcases manager.cancel_cases client id exchange with
    ⟨_, same⟩ | ⟨_, _, error, same⟩ | ⟨ran, front, found, rest, split, _, same, _⟩
  · rw [same]
    exact undisturbed
  · rw [same]
    exact pruned
  · have spared : ∀ task ∈ front ++ found :: rest, task.Spares valid key := by
      rw [← split]
      exact pruned.spared ran
    have here := spared found (by simp)
    have cancelled := Task.cancel_untouched pruned.untouched here
    rw [same]
    refine pruned.withTasks ran (fun task member => ?_) ?_
    · rcases List.mem_append.mp member with early | late
      · exact spared task (by simp [early])
      · rcases List.mem_cons.mp late with rfl | late
        · exact here.cancel
        · exact spared task (by simp [late])
    · unfold reportCancel
      split
      · exact cancelled.log _
      · exact cancelled

/-- Disconnecting tasks of a client leaves the request of another client alone. -/
theorem disconnectEach_untouched (client : ClientId) (tasks : List (Task σ))
    (untouched : exchange.Untouched valid key) (spared : ∀ task ∈ tasks, task.Spares valid key)
    (others : ∀ task ∈ tasks, task.client = client → task.form? key = none) :
    (disconnectEach client tasks exchange).2.Untouched valid key ∧
      ∀ task ∈ (disconnectEach client tasks exchange).1, task.Spares valid key := by
  induction tasks generalizing exchange with
  | nil => exact ⟨untouched, spared⟩
  | cons first tasks ih =>
      have here := spared first List.mem_cons_self
      have rest (exchange : Exchange σ) (before : exchange.Untouched valid key) :=
        ih before (fun task member => spared task (List.mem_cons_of_mem _ member))
          (fun task member => others task (List.mem_cons_of_mem _ member))
      by_cases own : first.client = client
      · obtain ⟨after, kept⟩ := rest _
          (Task.disconnect_untouched untouched here (others first List.mem_cons_self own))
        simp only [disconnectEach, own, if_true]
        exact ⟨after, List.forall_mem_cons.mpr ⟨here.disconnect, kept⟩⟩
      · obtain ⟨after, kept⟩ := rest _ untouched
        simp only [disconnectEach, own, if_false]
        exact ⟨after, List.forall_mem_cons.mpr ⟨here, kept⟩⟩

/-- A disconnection of other tasks does not disturb the request. -/
theorem Undisturbed.disconnect (undisturbed : Undisturbed valid key (manager, exchange))
    (client : ClientId)
    (others : ∀ ran, ∀ task ∈ manager.tasks ran, task.client = client → task.form? key = none) :
    Undisturbed valid key (manager.disconnect client exchange) := by
  obtain ⟨first, queue⟩ := disconnectEach_untouched client manager.queue undisturbed.untouched
    (undisturbed.spared false) (others false)
  obtain ⟨second, pending⟩ := disconnectEach_untouched client manager.pending first
    (undisturbed.spared true) (others true)
  have left := (undisturbed.withTasks false queue first).withTasks true pending second
  exact ⟨left.prune.untouched.log _, left.prune.spared⟩

/-- A task that is added leaves the request alone, if it does not start for it. -/
theorem Undisturbed.add (undisturbed : Undisturbed valid key (manager, exchange)) {task : Task σ}
    (spares : task.Spares valid key)
    (other : task.form? key = none ∨ task.hasPriority = false) :
    Undisturbed valid key (manager.add task exchange) := by
  have untouched := undisturbed.untouched
  unfold TaskManager.add
  split_ifs with priority
  · have stranger := other.resolve_right (by simp [priority])
    have ran := task.run_untouched (untouched.log (.runningPriority task.client task.method))
      spares stranger
    exact undisturbed.retain spares.run ran
  · refine undisturbed.withTasks false (fun held member => ?_) (untouched.log _)
    rcases List.mem_append.mp member with old | new
    · exact undisturbed.spared false held old
    · rw [List.mem_singleton.mp new]
      exact spares

/-! ### The answer to a cancelled task -/

/-- A cancelled task that waits is answered as cancelled when its turn in the queue comes. -/
theorem drain_answers_cancelled {task : RequestTask σ} {queue pending : List (Task σ)}
    (undisturbed : Undisturbed valid task.key (⟨queue, pending⟩, exchange))
    (stands : Stands task (.held false true false) ⟨queue, pending⟩)
    (enrolled : exchange.requests[task.key]? = some task.request)
    (expected : task.request.isNotification = false) :
    (TaskManager.drain queue pending exchange).2.isAnswered task.key = true ∧
      (TaskManager.drain queue pending exchange).2.answersTo task.key =
        [⟨.answer task.key, task.request.client,
          Rpc.errorText task.request.id .taskCancelled⟩] := by
  induction queue generalizing pending exchange with
  | nil => cases stands false
  | cons first queue ih =>
      have within := exchange.othersCloseOnly_anyKey
      cases form : first.form? task.key with
      | none =>
          have ran : Leads anyKey uncancelling exchange (first.run exchange).2.pause :=
            (first.leads_run exchange).pause
          have requests : (first.run exchange).2.pause.requests = exchange.requests :=
            ran.requests within
          obtain ⟨hooks, next, path, there, _⟩ :=
            evolves_runOther queue pending exchange form _ stands
          obtain ⟨_, rfl⟩ := path.of_none
          apply ih (undisturbed.runFirst form) there
          exact requests ▸ enrolled
      | some held =>
          obtain ⟨rfl, _⟩ := Task.form?_eq_some.mp form
          obtain ⟨listed, _⟩ := stands_iff.mp stands
          rw [Task.forms_cons_some form] at listed
          obtain rfl : held = task.flagged false true false := (List.cons.inj listed).1
          obtain ⟨answered, answers⟩ := undisturbed.untouched.answer_paused enrolled expected
            fun id => Rpc.errorText id .taskCancelled
          -- nothing can be added to the answer by the rest of the queue
          have rest : Leads anyKey uncancelling (exchange.pause.error task.key .taskCancelled)
              (TaskManager.drain (.request (task.flagged false true false) :: queue) pending
                exchange).2 := (Leads.refl _).pause.trans (leads_drain queue _ _)
          have grown := Exchange.othersCloseOnly_anyKey
            (exchange.pause.error task.key .taskCancelled)
          exact ⟨rest.answered grown answered,
            (rest.grows.answersTo grown answered).trans answers⟩

end TaskManager

end RpcDispatch
