import RpcDispatch.Proofs.Task.Ledger

/-
This file shows that every operation of the task manager keeps its account, and with it every run
of a manager.  Between two operations requests come and other threads act on them.
-/

namespace RpcDispatch

open Exchange (Leads)

variable {σ : Type}

/-- What a manager keeps in its pending list between two operations. -/
def Retained (pending : List (RequestTask σ)) : Prop :=
  ∀ task ∈ pending, task.disconnected = false ∧ task.entrypoint.isAsync = true ∧
    task.request.isNotification = false

/-- A task that has run may be retained when it is pending. -/
theorem Retained.retain {pending : List (RequestTask σ)} (retained : Retained pending)
    (task : RequestTask σ) (exchange : Exchange σ) :
    Retained (if task.isPending exchange then pending ++ [task] else pending) := by
  split_ifs with pends
  · intro held member
    rcases List.mem_append.mp member with member | member
    · exact retained held member
    · rw [List.mem_singleton] at member
      subst member
      obtain ⟨_, stays, isAsync, expected, _⟩ := (held.isPending_iff exchange).mp pends
      exact ⟨stays, isAsync, expected⟩
  · exact retained

/-- One retained task may be cancelled. -/
theorem Retained.cancel {front rest : List (RequestTask σ)} {task marked : RequestTask σ}
    (retained : Retained (front ++ task :: rest)) (alike : marked.Alike task) :
    Retained (front ++ marked :: rest) := by
  intro held member
  rcases List.mem_append.mp member with member | member
  · exact retained held (by simp [member])
  · rcases List.mem_cons.mp member with rfl | member
    · rw [alike.disconnected, alike.entrypoint, alike.request]
      exact retained task (by simp)
    · exact retained held (by simp [member])

/-- The manager holds request tasks, and their account is in order. -/
def TaskManager.Accounts (since : Key) (added : List (RequestTask σ)) (manager : TaskManager σ)
    (exchange : Exchange σ) : Prop :=
  ∃ queued pending, manager = ⟨queued.map .request, pending.map .request⟩ ∧
    Ledger since added queued pending exchange ∧ Retained pending

namespace TaskManager

variable {since : Key} {added : List (RequestTask σ)} {manager : TaskManager σ}
  {exchange after : Exchange σ} {hooks : Hook → Prop}

/-- A manager without tasks accounts for none. -/
theorem accounts_empty (exchange : Exchange σ) (fresh : ∀ key, since ≤ key →
    .request key ∉ exchange.calls ∧ .disconnect key ∉ exchange.calls) :
    Accounts since [] .empty exchange :=
  ⟨[], [], rfl, .start exchange fresh, by simp [Retained]⟩

/-- No hook was called for a recent request that has no task. -/
theorem Accounts.fresh (accounts : Accounts since added manager exchange) {key : Key}
    (recent : since ≤ key) (strange : ∀ task ∈ added, task.key ≠ key) :
    .request key ∉ exchange.calls ∧ .disconnect key ∉ exchange.calls := by
  obtain ⟨_, _, _, ledger, _⟩ := accounts
  exact ledger.fresh key recent strange

/-- A stretch that calls neither request nor disconnection hooks keeps the account. -/
theorem Accounts.quiet (accounts : Accounts since added manager exchange)
    (leads : Leads anyKey hooks exchange after)
    (calm : ∀ key, ¬ hooks (.request key) ∧ ¬ hooks (.disconnect key)) :
    Accounts since added manager after := by
  obtain ⟨queued, pending, rfl, ledger, retained⟩ := accounts
  exact ⟨queued, pending, rfl, ledger.quiet leads calm, retained⟩

theorem Accounts.log (accounts : Accounts since added manager exchange) (notice : Log.Notice) :
    Accounts since added manager (exchange.log notice) := by
  have leads : Leads anyKey noHook exchange (exchange.log notice) :=
    (Leads.refl exchange).log notice
  exact accounts.quiet leads fun _ => ⟨id, id⟩

/-- An act keeps the account. -/
theorem Accounts.perform (accounts : Accounts since added manager exchange) (act : Act σ) :
    Accounts since added manager (exchange.perform act) := by
  have leads : Leads anyKey noHook exchange (exchange.perform act) :=
    (Leads.refl exchange).perform act fun _ _ => trivial
  exact accounts.quiet leads fun _ => ⟨id, id⟩

/-- A new request keeps the account of the tasks that were added. -/
theorem Accounts.enroll (accounts : Accounts since added manager exchange) (request : Request) :
    Accounts since added manager (exchange.enroll request).2 := by
  obtain ⟨queued, pending, rfl, ledger, retained⟩ := accounts
  exact ⟨queued, pending, rfl, ledger.enroll request, retained⟩

/-- Adding a new request task adds it to the account. -/
theorem Accounts.add (accounts : Accounts since added manager exchange) (key : Key)
    (request : Request) (entrypoint : Entrypoint σ) (recent : since ≤ key)
    (enrolled : exchange.requests[key]? = some request) (new : ∀ task ∈ added, task.key ≠ key) :
    Accounts since (added ++ [.create key request entrypoint])
      (manager.add (.request (.create key request entrypoint)) exchange).1
      (manager.add (.request (.create key request entrypoint)) exchange).2 := by
  obtain ⟨queued, pending, rfl, ledger, retained⟩ := accounts
  have log (notice : Log.Notice) : Leads anyKey noHook exchange (exchange.log notice) :=
    (Leads.refl exchange).log notice
  have put := ledger.put key request entrypoint recent enrolled new
  cases priority : entrypoint.hasPriority with
  | true =>
      have run := (put.quiet (log (.runningPriority request.client request.method))
        fun _ => ⟨id, id⟩).run
      rw [add_priority queued pending _ _ priority]
      exact ⟨queued, _, rfl, run, retained.retain _ _⟩
  | false =>
      have queuing := put.quiet (log (.queued request.client request.method (queued.length + 1)))
        fun _ => ⟨id, id⟩
      have moved := List.perm_append_singleton (RequestTask.create key request entrypoint) queued
      rw [add_waiting queued pending _ _ priority]
      refine ⟨_, pending, rfl, ?_, retained⟩
      exact queuing.recast (fun held member => ⟨held, moved.mem_iff.mp member, .refl held⟩)
        (fun held member => ⟨held, member, .refl held⟩)
        (((moved.append_right pending).map _).nodup_iff.mpr queuing.once) queuing.kept

/-- A chunk is no concern of the account. -/
theorem Accounts.addChunk (accounts : Accounts since added manager exchange) (task : ChunkTask σ) :
    Accounts since added (manager.add (.chunk task) exchange).1
      (manager.add (.chunk task) exchange).2 := by
  rw [manager.add_chunk task exchange]
  have run : Leads anyKey noHook exchange
      (task.run (exchange.log (.runningPriority task.client "binary"))).pause :=
    (((Leads.refl exchange).log _).trans
      (task.run_leads _ (Script.closesOnly_anyKey _))).pause
  exact accounts.quiet run fun _ => ⟨id, id⟩

/-- Draining the queue moves its tasks to the pending ones, as far as they are pending. -/
theorem drain_ledger {queued pending : List (RequestTask σ)}
    (ledger : Ledger since added queued pending exchange) (retained : Retained pending) :
    ∃ held : List (RequestTask σ),
      (drain (queued.map .request) (pending.map .request) exchange).1 = held.map .request ∧
      Ledger since added [] held (drain (queued.map .request) (pending.map .request) exchange).2 ∧
      Retained held := by
  induction queued generalizing pending exchange with
  | nil => exact ⟨pending, rfl, ledger, retained⟩
  | cons task queued ih =>
      obtain ⟨held, same, later, kept⟩ := ih ledger.run (retained.retain _ _)
      refine ⟨held, ?_, ?_, kept⟩
      · simpa only [List.map_cons, drain, Task.run, retain_request] using same
      · simpa only [List.map_cons, drain, Task.run, retain_request] using later

/-- Dropping the finished tasks keeps the account. -/
theorem Accounts.prune (accounts : Accounts since added manager exchange) :
    Accounts since added (manager.prune exchange).1 (manager.prune exchange).2 := by
  obtain ⟨queued, pending, rfl, ledger, retained⟩ := accounts
  obtain ⟨kept, same, _, sublist, later⟩ := ledger.prune
  refine ⟨queued, kept, ?_, later, fun task member => retained task (sublist.subset member)⟩
  simp [TaskManager.prune, same]

/-- Running the queue keeps the account. -/
theorem Accounts.runAll (accounts : Accounts since added manager exchange) :
    Accounts since added (manager.runAll exchange).1 (manager.runAll exchange).2 := by
  obtain ⟨queued, pending, rfl, ledger, retained⟩ := accounts
  obtain ⟨held, same, later, kept⟩ := drain_ledger ledger retained
  have drained : Accounts since added ⟨[], held.map .request⟩ _ := ⟨[], held, rfl, later, kept⟩
  simpa only [TaskManager.runAll, same] using drained.prune

/-- Running all tasks leaves none in the queue. -/
theorem runAll_queue (manager : TaskManager σ) (exchange : Exchange σ) :
    (manager.runAll exchange).1.queue = [] :=
  rfl

/-- A manager that a client has left accounts for the same tasks. -/
theorem Accounts.disconnect (accounts : Accounts since added manager exchange) (client : ClientId) :
    Accounts since added (manager.disconnect client exchange).1
      (manager.disconnect client exchange).2 := by
  obtain ⟨queued, pending, rfl, ledger, retained⟩ := accounts
  have leads : Leads anyKey (fun hook => ∃ key, hook = .disconnect key) exchange
      (disconnectEach client ((queued ++ pending).map .request) exchange).2 :=
    disconnectEach_leads client (queued ++ pending) exchange (tasksCloseOnly_anyKey _)
      (fun _ _ _ => trivial) fun task _ _ => ⟨task.key, rfl⟩
  have marked := ledger.leave client leads
    (disconnectEach_count client (queued ++ pending) exchange)
  obtain ⟨kept, same, stay, sublist, later⟩ := marked.prune
  have remains : Retained kept := by
    intro task member
    obtain ⟨old, present, rfl⟩ := List.mem_map.mp (sublist.subset member)
    have form := old.leave_same client
    rw [form.entrypoint, form.request]
    exact ⟨stay _ member, (retained old present).2⟩
  obtain ⟨notice, outcome⟩ := disconnect_request queued pending client exchange
  rw [outcome, same]
  exact Accounts.log ⟨_, kept, rfl, later, remains⟩ notice

/-- A cancellation puts one task in the place of a task alike. -/
theorem Cancels.alike {tasks cancelled : List (RequestTask σ)} {outcome : Except Rpc.Error Unit}
    (step : Cancels exchange tasks outcome cancelled after) :
    ∃ front task marked rest, tasks = front ++ task :: rest ∧
      cancelled = front ++ marked :: rest ∧ marked.Alike task := by
  obtain ⟨front, task, rest, split, same, _, _⟩ := step.split
  exact ⟨front, task, _, rest, split, same, task.cancel_alike exchange⟩

/-- Cancelling marks at most one task. -/
theorem Accounts.cancel (accounts : Accounts since added manager exchange) (client : ClientId)
    (id : Rpc.Id) :
    Accounts since added (manager.cancel client id exchange).2.1
      (manager.cancel client id exchange).2.2 := by
  obtain ⟨queued, pending, rfl, ledger, retained⟩ := accounts
  obtain ⟨kept, same, _, sublist, later⟩ := ledger.prune
  have remains : Retained kept := fun task member => retained task (sublist.subset member)
  have report (outcome : Except Rpc.Error Unit) (after : Exchange σ) :
      Leads anyKey (fun hook => ∃ key, hook = .cancel key) after
        (reportCancel client id outcome after) := reportCancel_leads client id outcome after
  have step := cancel_step queued pending client id exchange
  generalize TaskManager.cancel ⟨queued.map .request, pending.map .request⟩ client id exchange =
    result at step ⊢
  cases step with
  | refused error => exact ⟨queued, pending, rfl, ledger, retained⟩
  | absent error =>
      rw [same]
      exact ⟨queued, kept, rfl, later, remains⟩
  | queued outcome cancelled after step =>
      have marked := step.leads (tasksCloseOnly_anyKey queued)
      obtain ⟨front, task, changed, rest, split, rfl, alike⟩ := step.alike
      have account := ((later.cancel alike).1 split).quiet
        (marked.trans (report outcome after)) (by simp)
      rw [same]
      exact ⟨_, kept, rfl, account, remains⟩
  | pending others outcome cancelled after equal _ step =>
      have one : others = kept :=
        List.map_injective_iff.mpr (fun _ _ => Task.request.inj) (equal.symm.trans same)
      subst one
      have marked := step.leads (tasksCloseOnly_anyKey others)
      obtain ⟨front, task, changed, rest, split, rfl, alike⟩ := step.alike
      have account := ((later.cancel alike).2 split).quiet
        (marked.trans (report outcome after)) (by simp)
      exact ⟨queued, _, rfl, account, (split ▸ remains).cancel alike⟩

end TaskManager

end RpcDispatch
