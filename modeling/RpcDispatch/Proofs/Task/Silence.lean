import RpcDispatch.Proofs.Exchange.Silence
import RpcDispatch.Proofs.Task.Departure

/-
This file says what becomes of the tasks of a client that leaves.  Their requests are closed before
their hooks are called, the queued ones are not called any more, and none is held when the queue
has been run.
-/

namespace RpcDispatch

open Exchange (Leads)

variable {σ : Type} {closes : Key → Prop} {hooks : Hook → Prop}

/-- What a stretch has called was called before, or it is one of its hooks. -/
theorem Exchange.Leads.called {before after : Exchange σ} (leads : Leads closes hooks before after)
    (within : before.OthersCloseOnly closes) {hook : Hook} (called : hook ∈ after.calls) :
    hook ∈ before.calls ∨ hooks hook := by
  by_cases allowed : hooks hook
  · exact .inr allowed
  · exact .inl ((leads.mem_calls_iff within allowed).mp called)

namespace RequestTask

/-- The first disconnection closes the request, calls the hook and lets it run. -/
theorem disconnect_hook_leads (task : RequestTask σ) (exchange : Exchange σ)
    (stays : task.disconnected = false) (allowed : task.entrypoint.ClosesOnly closes) :
    Leads closes hooks
      ((exchange.pause.close task.key).record
        (.called task.entrypoint.method (.disconnect task.key)))
      (task.disconnect exchange).2 := by
  have called : Leads closes hooks
      ((exchange.pause.close task.key).record
        (.called task.entrypoint.method (.disconnect task.key)))
      ((exchange.pause.close task.key).callDisconnect task.entrypoint task.key).2 :=
    task.entrypoint.onDisconnect.run_leads _ allowed.onDisconnect
  unfold disconnect
  simp only [stays, Bool.false_eq_true, if_false]
  split
  · next result => rwa [result] at called
  · next failure result =>
      rw [result] at called
      exact called.log _

/-- The request of a task is hushed from the first disconnection on. -/
theorem disconnect_hushed (task : RequestTask σ) (exchange : Exchange σ)
    (stays : task.disconnected = false) {request : Request}
    (enrolled : exchange.requests[task.key]? = some request) :
    (task.disconnect exchange).2.Hushed task.key := by
  have turn : Leads anyKey noHook exchange exchange.pause := exchange.pause_leads
  have closed : (exchange.pause.close task.key).isClosed task.key = true := by
    rw [← turn.requests exchange.othersCloseOnly_anyKey, Exchange.requests_getElem?] at enrolled
    obtain ⟨channel, found, _⟩ := Option.map_eq_some_iff.mp enrolled
    simp only [Exchange.channel?] at found
    simp [Exchange.isClosed, Exchange.channel?, Exchange.close, Exchange.update, found]
  have hook : Leads anyKey noHook _ _ :=
    task.disconnect_hook_leads exchange stays task.entrypoint.closesOnly_anyKey
  exact (Exchange.hushed_called closed _).grows hook.grows (Exchange.othersCloseOnly_anyKey _)

end RequestTask

namespace TaskManager

/-! ### Hushing -/

/-- Every disconnect hook that is called hushes its request. -/
theorem disconnectEach_hushes (client : ClientId) (tasks : List (RequestTask σ))
    {exchange : Exchange σ} (hushes : exchange.Hushes)
    (enrolled : ∀ task ∈ tasks, exchange.requests[task.key]? = some task.request) :
    (disconnectEach client (tasks.map .request) exchange).2.Hushes := by
  induction tasks generalizing exchange with
  | nil => exact hushes
  | cons task tasks ih =>
      by_cases leaves : task.request.client = client
      · have within := exchange.othersCloseOnly_anyKey
        have leads : Leads anyKey
            (fun hook => task.disconnected = false ∧ hook = .disconnect task.key) exchange
            (task.disconnect exchange).2 :=
          task.disconnect_leads exchange task.entrypoint.closesOnly_anyKey trivial
        have first : (task.disconnect exchange).2.Hushes := by
          intro key called
          rcases leads.called within called with before | ⟨stays, same⟩
          · exact (hushes key before).grows leads.grows within
          · cases same
            exact task.disconnect_hushed exchange stays (enrolled task (by simp))
        have rest := ih first fun later member => by
          rw [leads.requests within]
          exact enrolled later (by simp [member])
        simpa [disconnectEach, Task.client, Task.disconnect, leaves] using rest
      · have rest := ih hushes fun later member => enrolled later (by simp [member])
        simpa [disconnectEach, Task.client, leaves] using rest

variable {since : Key} {added : List (RequestTask σ)} {manager : TaskManager σ}
  {exchange : Exchange σ}

/-- Disconnecting a client hushes the requests whose hooks are called. -/
theorem Accounts.disconnect_hushes (accounts : Accounts since added manager exchange)
    (hushes : exchange.Hushes) (client : ClientId) :
    (manager.disconnect client exchange).2.Hushes := by
  obtain ⟨queued, pending, rfl, ledger, _⟩ := accounts
  have enrolled : ∀ task ∈ queued ++ pending,
      exchange.requests[task.key]? = some task.request := by
    intro task held
    obtain ⟨first, present, same⟩ := ledger.origin task held
    rw [same.key, same.request]
    exact ledger.enrolled first present
  obtain ⟨notice, same⟩ := disconnect_request queued pending client exchange
  have pruned : Leads anyKey noHook
      (disconnectEach client ((queued ++ pending).map .request) exchange).2
      ((keepPending ((pending.map (·.leave client)).map .request)
        (disconnectEach client ((queued ++ pending).map .request) exchange).2).2.log notice) :=
    (keepPending_leads _ _).log notice
  rw [same]
  exact (disconnectEach_hushes client (queued ++ pending) hushes enrolled).leads pruned
    fun _ => id

/-- The hook of every held task of the client has been called when the client has left. -/
theorem Accounts.disconnect_called (accounts : Accounts since added manager exchange)
    {task : RequestTask σ} (held : .request task ∈ manager.queue ++ manager.pending) :
    .disconnect task.key ∈ (manager.disconnect task.request.client exchange).2.calls := by
  obtain ⟨queued, pending, rfl, ledger, _⟩ := accounts
  rw [← List.map_append] at held
  obtain ⟨_, present, ⟨⟩⟩ := List.mem_map.mp held
  rw [← List.count_pos_iff, disconnect_count, Nat.add_pos_iff_pos_or_pos, List.count_pos_iff,
    List.countP_pos_iff]
  by_cases gone : task.disconnected = true
  · exact .inl ((ledger.left task present).mp gone)
  · exact .inr ⟨task, present, by simp [RequestTask.hears, gone]⟩

/-! ### No call after the hook -/

/-- A task whose disconnect hook was called does not call its request hook. -/
theorem Ledger.run_called {task : RequestTask σ} {queued pending : List (RequestTask σ)}
    (ledger : Ledger since added (task :: queued) pending exchange) {key : Key}
    (left : .disconnect key ∈ exchange.calls)
    (called : .request key ∈ (task.run exchange).2.calls) : .request key ∈ exchange.calls := by
  have within := exchange.othersCloseOnly_anyKey
  by_cases hit : task.key = key
  · have spent : task.IsSpent := .inl ((ledger.left task (by simp)).mpr (hit ▸ left))
    have quiet : Leads anyKey noHook exchange (task.run exchange).2 :=
      task.run_leads_of_spent exchange spent
    exact (quiet.mem_calls_iff within id).mp called
  · have leads := task.run_leads exchange task.entrypoint.closesOnly_anyKey
    exact (leads.mem_calls_iff within (by simpa using Ne.symm hit)).mp called

theorem drain_called {queued pending : List (RequestTask σ)}
    (ledger : Ledger since added queued pending exchange) {key : Key}
    (left : .disconnect key ∈ exchange.calls)
    (called : .request key ∈
      (drain (queued.map .request) (pending.map .request) exchange).2.calls) :
    .request key ∈ exchange.calls := by
  induction queued generalizing pending exchange with
  | nil => exact called
  | cons task queued ih =>
      have ran : Leads anyKey (· = .request task.key) exchange (task.run exchange).2.pause :=
        (task.run_leads exchange task.entrypoint.closesOnly_anyKey).pause
      have turn : Leads anyKey noHook (task.run exchange).2 (task.run exchange).2.pause :=
        Exchange.pause_leads _
      simp only [List.map_cons, drain, Task.run, retain_request] at called
      have first := ih ledger.run (ran.mem_calls exchange.othersCloseOnly_anyKey left) called
      rw [turn.mem_calls_iff (Exchange.othersCloseOnly_anyKey _) id] at first
      exact Ledger.run_called ledger left first

/-- Running all tasks calls no request hook after the disconnect hook. -/
theorem Accounts.runAll_called (accounts : Accounts since added manager exchange) {key : Key}
    (left : .disconnect key ∈ exchange.calls)
    (called : .request key ∈ (manager.runAll exchange).2.calls) :
    .request key ∈ exchange.calls := by
  obtain ⟨queued, pending, rfl, ledger, _⟩ := accounts
  have pruned : Leads anyKey noHook
      (drain (queued.map .request) (pending.map .request) exchange).2
      (TaskManager.runAll ⟨queued.map .request, pending.map .request⟩ exchange).2 :=
    keepPending_leads _ _
  rw [pruned.mem_calls_iff (Exchange.othersCloseOnly_anyKey _) id] at called
  exact drain_called ledger left called

/-! ### What is held -/

/-- The tasks of a client that has left: those in the queue are marked, and none is pending. -/
structure HasLeft (manager : TaskManager σ) (client : ClientId) : Prop where
  queue : ∀ task, .request task ∈ manager.queue → task.request.client = client →
    task.disconnected = true
  pending : ∀ task, .request task ∈ manager.pending → task.request.client ≠ client

/-- A client that leaves has left, and so have those that left before. -/
theorem Accounts.hasLeft (accounts : Accounts since added manager exchange)
    {client other : ClientId} (before : client ≠ other → manager.HasLeft client) :
    (manager.disconnect other exchange).1.HasLeft client := by
  obtain ⟨queued, pending, rfl, _, _⟩ := accounts
  obtain ⟨notice, same⟩ := disconnect_request queued pending other exchange
  obtain ⟨kept, prunes, sublist, stay, _⟩ :=
    keepPending_request (pending.map (·.leave other))
      (disconnectEach other ((queued ++ pending).map .request) exchange).2
  rw [same, prunes]
  have origin {tasks : List (RequestTask σ)} {task : RequestTask σ}
      (member : task ∈ tasks.map (·.leave other)) :
      ∃ old ∈ tasks, task = old.leave other := by
    obtain ⟨old, present, rfl⟩ := List.mem_map.mp member
    exact ⟨old, present, rfl⟩
  constructor
  · intro task listed own
    obtain ⟨_, member, ⟨⟩⟩ := List.mem_map.mp listed
    obtain ⟨old, present, rfl⟩ := origin member
    rw [(old.leave_same other).request] at own
    unfold RequestTask.leave
    split_ifs with leaves
    · rfl
    · exact (before (own ▸ leaves)).queue old (List.mem_map_of_mem present) own
  · intro task listed own
    obtain ⟨_, member, ⟨⟩⟩ := List.mem_map.mp listed
    have stays := stay task member
    obtain ⟨old, present, rfl⟩ := origin (sublist.subset member)
    rw [(old.leave_same other).request] at own
    unfold RequestTask.leave at stays
    split_ifs at stays with leaves
    exact (before (own ▸ leaves)).pending old (List.mem_map_of_mem present) own

/-- When the queue has been drained, no task of the client is kept. -/
theorem drain_hasLeft {client : ClientId} (queued pending : List (RequestTask σ))
    (exchange : Exchange σ)
    (marked : ∀ task ∈ queued, task.request.client = client → task.disconnected = true)
    (away : ∀ task ∈ pending, task.request.client ≠ client) :
    ∃ held : List (RequestTask σ),
      (drain (queued.map .request) (pending.map .request) exchange).1 = held.map .request ∧
      ∀ task ∈ held, task.request.client ≠ client := by
  induction queued generalizing pending exchange with
  | nil => exact ⟨pending, rfl, away⟩
  | cons task queued ih =>
      have kept : ∀ held ∈ (if (task.run exchange).1.isPending (task.run exchange).2.pause then
          pending ++ [(task.run exchange).1] else pending), held.request.client ≠ client := by
        split_ifs with pends
        · intro held member own
          rcases List.mem_append.mp member with member | member
          · exact away held member own
          · -- a task of the client that has run is still marked, so that it is not pending
            rw [List.mem_singleton.mp member] at own
            have stays := ((RequestTask.isPending_iff _ _).mp pends).2.1
            rw [task.run_fst exchange] at own stays
            have gone := marked task (by simp) (by split_ifs at own <;> exact own)
            split_ifs at stays <;> simp [gone] at stays
        · exact away
      obtain ⟨held, same, rest⟩ := ih _ (task.run exchange).2.pause
        (fun later member => marked later (by simp [member])) kept
      refine ⟨held, ?_, rest⟩
      simpa only [List.map_cons, drain, Task.run, retain_request] using same

/-- When all tasks have been run, no task of the client is held. -/
theorem Accounts.runAll_hasLeft (accounts : Accounts since added manager exchange)
    {client : ClientId} (left : manager.HasLeft client) :
    ∀ task ∈ (manager.runAll exchange).1.queue ++ (manager.runAll exchange).1.pending,
      task.client ≠ client := by
  obtain ⟨queued, pending, rfl, _, _⟩ := accounts
  obtain ⟨held, same, away⟩ := drain_hasLeft queued pending exchange
    (fun task member => left.queue task (List.mem_map_of_mem member))
    (fun task member => left.pending task (List.mem_map_of_mem member))
  obtain ⟨kept, prunes, sublist, _⟩ := keepPending_request held
    (drain (queued.map .request) (pending.map .request) exchange).2
  have pending_eq : (TaskManager.runAll ⟨queued.map .request, pending.map .request⟩ exchange).1.pending =
      kept.map .request := by
    rw [← prunes, ← same]
    rfl
  intro task member
  rw [runAll_queue, List.nil_append, pending_eq] at member
  obtain ⟨current, present, rfl⟩ := List.mem_map.mp member
  exact away current (sublist.subset present)

end TaskManager

end RpcDispatch
