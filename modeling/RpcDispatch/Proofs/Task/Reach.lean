import RpcDispatch.Proofs.Task.Account

/-
This file says how far the operations of the task manager reach: which hooks they may call, and
which requests they may close when the entrypoints of the tasks close only given ones.
-/

namespace RpcDispatch.TaskManager

open Exchange (Leads)

variable {σ : Type} {closes : Key → Prop}

/-- Adding a request task calls no hook, or its request hook. -/
theorem add_leads (queued pending : List (RequestTask σ)) (task : RequestTask σ)
    (exchange : Exchange σ) (allowed : task.entrypoint.ClosesOnly closes) :
    Leads closes (· = .request task.key) exchange
      (add ⟨queued.map .request, pending.map .request⟩ (.request task) exchange).2 := by
  cases priority : task.entrypoint.hasPriority with
  | true =>
      rw [add_priority queued pending task exchange priority]
      exact (((Leads.refl exchange).log _).trans (task.run_leads _ allowed)).pause
  | false =>
      rw [add_waiting queued pending task exchange priority]
      exact (Leads.refl exchange).log _

/-- Draining calls only request hooks. -/
theorem drain_leads (queued pending : List (RequestTask σ)) (exchange : Exchange σ)
    (allowed : TasksCloseOnly closes queued) :
    Leads closes (fun hook => ∃ task ∈ queued, hook = .request task.key) exchange
      (drain (queued.map .request) (pending.map .request) exchange).2 := by
  induction queued generalizing pending exchange with
  | nil => exact .refl exchange
  | cons task queued ih =>
      have first : Leads closes (fun hook => ∃ held ∈ task :: queued, hook = .request held.key)
          exchange (task.run exchange).2.pause :=
        ((task.run_leads exchange (allowed task (by simp))).widen fun hook same =>
          ⟨task, by simp, same⟩).pause
      simp only [List.map_cons, drain, Task.run, retain_request]
      refine first.trans ((ih _ _ fun later member => allowed later (by simp [member])).widen ?_)
      rintro hook ⟨held, member, same⟩
      exact ⟨held, by simp [member], same⟩

/-- Running all tasks calls only request hooks of queued tasks. -/
theorem runAll_leads (queued pending : List (RequestTask σ)) (exchange : Exchange σ)
    (allowed : TasksCloseOnly closes queued) :
    Leads closes (fun hook => ∃ task ∈ queued, hook = .request task.key) exchange
      (runAll ⟨queued.map .request, pending.map .request⟩ exchange).2 :=
  (drain_leads queued pending exchange allowed).trans (keepPending_leads _ _)

/-- Disconnecting a client closes its requests and calls their hooks. -/
theorem disconnect_leads (queued pending : List (RequestTask σ)) (client : ClientId)
    (exchange : Exchange σ) (allowed : TasksCloseOnly closes (queued ++ pending))
    (own : ∀ task ∈ queued ++ pending, task.request.client = client → closes task.key) :
    Leads closes (fun hook => ∃ task ∈ queued ++ pending,
        task.hears client = true ∧ hook = .disconnect task.key) exchange
      (disconnect ⟨queued.map .request, pending.map .request⟩ client exchange).2 := by
  obtain ⟨notice, same⟩ := disconnect_request queued pending client exchange
  rw [same]
  exact ((disconnectEach_leads client (queued ++ pending) exchange allowed own
    fun task member hears => ⟨task, member, hears, rfl⟩).trans (keepPending_leads _ _)).log notice

/-! ### Managers in order -/

variable {since : Key} {added : List (RequestTask σ)} {manager : TaskManager σ}
  {exchange : Exchange σ}

theorem Accounts.add_leads (accounts : Accounts since added manager exchange)
    (task : RequestTask σ) (allowed : task.entrypoint.ClosesOnly closes) :
    Leads closes (· = .request task.key) exchange (manager.add (.request task) exchange).2 := by
  obtain ⟨queued, pending, rfl, _, _⟩ := accounts
  exact TaskManager.add_leads queued pending task exchange allowed

theorem Accounts.runAll_leads (accounts : Accounts since added manager exchange)
    (allowed : TasksCloseOnly closes added) :
    Leads closes (fun hook => ∃ key, hook = .request key) exchange
      (manager.runAll exchange).2 := by
  obtain ⟨queued, pending, rfl, ledger, _⟩ := accounts
  refine (TaskManager.runAll_leads queued pending exchange fun task member =>
    ledger.tasksCloseOnly allowed task (by simp [member])).widen ?_
  rintro hook ⟨task, _, same⟩
  exact ⟨task.key, same⟩

theorem Accounts.cancel_leads (accounts : Accounts since added manager exchange)
    (allowed : TasksCloseOnly closes added) (client : ClientId) (id : Rpc.Id) :
    Leads closes (fun hook => ∃ key, hook = .cancel key) exchange
      (manager.cancel client id exchange).2.2 := by
  obtain ⟨queued, pending, rfl, ledger, _⟩ := accounts
  exact TaskManager.cancel_leads queued pending client id exchange (ledger.tasksCloseOnly allowed)

/-- Disconnecting a client closes only requests of that client. -/
theorem Accounts.disconnect_leads (accounts : Accounts since added manager exchange)
    (allowed : TasksCloseOnly closes added) (client : ClientId)
    (own : ∀ task ∈ added, task.request.client = client → closes task.key) :
    Leads closes (fun hook => ∃ key, hook = .disconnect key) exchange
      (manager.disconnect client exchange).2 := by
  obtain ⟨queued, pending, rfl, ledger, _⟩ := accounts
  refine (TaskManager.disconnect_leads queued pending client exchange
    (ledger.tasksCloseOnly allowed) ?_).widen ?_
  · intro task held leaves
    obtain ⟨first, present, same⟩ := ledger.origin task held
    rw [same.key]
    exact own first present (same.request ▸ leaves)
  · rintro hook ⟨task, _, _, same⟩
    exact ⟨task.key, same⟩

end RpcDispatch.TaskManager
