import RpcDispatch.Proofs.Service.Run
import RpcDispatch.Proofs.Task.Tracking

/-
This file shows that no tracked request is lost or duplicated, neither by a task manager nor by
the service that drives one.
-/

namespace RpcDispatch

variable {σ : Type}

namespace Service

/-- An iteration runs every queued task. -/
theorem process_queue (service : Service σ) (inbox : Inbox) :
    (service.process inbox).manager.queue = [] := by
  rw [process_eq_handled]
  exact (service.handled inbox).1.runAll_queue _

/-- The state of every run of a task manager is tracked.  After every iteration of a service the
queue is empty, and work is pending exactly when a task is in flight. -/
theorem tasks_are_tracked {added : List (RequestTask σ)} {manager : TaskManager σ}
    {exchange : Exchange σ} {dispatcher : Dispatcher σ} {taken : List RawRequest} {since : Key}
    {service : Service σ} (managed : TaskManager.Run added manager exchange)
    (run : Run dispatcher taken since service) (inbox : Inbox) :
    manager.Tracked added exchange ∧
      let after := service.process inbox
      let tasks := dispatcher.enlisted since after.exchange.requests
      after.manager.Tracked tasks after.exchange ∧ after.manager.queue = [] ∧
        (after.hasPendingWork = true ↔ ∃ task ∈ tasks, InFlight task after.exchange) := by
  refine ⟨managed.accounts.tracked, ?_⟩
  intro after tasks
  have keeps := process_keeps run.keeps inbox
  rw [run.dispatcher_eq] at keeps
  have tracked : after.manager.Tracked tasks after.exchange := keeps.accounts.tracked
  have queue : after.manager.queue = [] := service.process_queue inbox
  refine ⟨tracked, queue, ?_⟩
  rw [← tracked.pending, hasPendingWork, TaskManager.isEmpty, queue]
  simp

/-- A service with one method, which is answered later, if at all. -/
def holdService : Service Unit :=
  .create ⟨⟨builtinMethods, [holdEntrypoint]⟩, none⟩ (.start () fun _ _ => none)

/-- One frame that calls the method. -/
def holdInbox : Inbox :=
  { Inbox.empty with
    requests := [⟨⟨1⟩, holdRequest.message.text.toUTF8.toList, .text⟩] }

/-- The call stays in flight, in the manager and in the service. -/
theorem tasks_are_tracked_hold :
    holdManager.1.hasPending holdManager.2 = true ∧
      InFlight holdTask holdManager.2 ∧
      (holdService.process holdInbox).hasPendingWork = true ∧
      ∃ task ∈ holdService.dispatcher.enlisted 0 (holdService.process holdInbox).exchange.requests,
        InFlight task (holdService.process holdInbox).exchange := by
  have run : Run holdService.dispatcher [] 0 holdService := .create () (fun _ _ => none) []
  have held : holdManager.1.hasPending holdManager.2 = true := by decide +kernel
  have pending : (holdService.process holdInbox).hasPendingWork = true := by decide +kernel
  obtain ⟨tracked, _, _, work⟩ := tasks_are_tracked holdManager_run run holdInbox
  obtain ⟨task, member, flying⟩ := tracked.pending.mp held
  rw [List.mem_singleton] at member
  exact ⟨held, member ▸ flying, pending, work.mp pending⟩

end Service

end RpcDispatch
