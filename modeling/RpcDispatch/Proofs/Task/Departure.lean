import RpcDispatch.Proofs.Task.Tracking

/-
This file says which disconnect hooks are called when a client leaves.  The hooks are called for
the tasks that the manager holds, and a pending task may have been answered since it was last
asked.
-/

namespace RpcDispatch

open Exchange (Leads)

variable {σ : Type}

namespace TaskManager

/-- A disconnection calls the hooks of the tasks that hear of it, each of them once. -/
theorem disconnect_count (queued pending : List (RequestTask σ)) (client : ClientId)
    (exchange : Exchange σ) (key : Key) :
    (disconnect ⟨queued.map .request, pending.map .request⟩ client exchange).2.calls.count
        (.disconnect key) =
      exchange.calls.count (.disconnect key) +
        (queued ++ pending).countP fun task => task.hears client && task.key = key := by
  obtain ⟨notice, same⟩ := disconnect_request queued pending client exchange
  have pruned : Leads anyKey noHook
      (disconnectEach client ((queued ++ pending).map .request) exchange).2
      (keepPending ((pending.map (·.leave client)).map .request)
        (disconnectEach client ((queued ++ pending).map .request) exchange).2).2 :=
    keepPending_leads _ _
  rw [same, Exchange.log_calls, pruned.count_calls (Exchange.othersCloseOnly_anyKey _) id,
    disconnectEach_count client (queued ++ pending) exchange key]

/-- The work of a client that its leaving concerns: a queued task that was not disconnected, or a
task that is in flight. -/
def IsLive (manager : TaskManager σ) (exchange : Exchange σ) (task : RequestTask σ) : Prop :=
  (∃ current, .request current ∈ manager.queue ∧ current.Same task ∧
    .disconnect task.key ∉ exchange.calls) ∨ InFlight task exchange

/-- Disconnecting the client calls the hook of every live task of the client once, and no other
disconnect hook. -/
structure DisconnectsLive (added : List (RequestTask σ)) (manager : TaskManager σ)
    (exchange : Exchange σ) (client : ClientId) : Prop where
  live : ∀ task ∈ added, task.request.client = client → manager.IsLive exchange task →
    (manager.disconnect client exchange).2.calls.count (.disconnect task.key) =
      exchange.calls.count (.disconnect task.key) + 1
  other : ∀ key, (∀ task ∈ added, task.key = key → task.request.client = client →
      ¬ manager.IsLive exchange task) →
    (manager.disconnect client exchange).2.calls.count (.disconnect key) =
      exchange.calls.count (.disconnect key)

/-- A pending task of the client that was answered since it was last asked. -/
def HasStale (manager : TaskManager σ) (exchange : Exchange σ) (client : ClientId) : Prop :=
  ∃ task, .request task ∈ manager.pending ∧ task.request.client = client ∧
    exchange.isAnswered task.key = true

variable {since : Key} {added queued pending : List (RequestTask σ)} {manager : TaskManager σ}
  {exchange : Exchange σ}

/-- A live task is a held one that was not disconnected and is not stale. -/
theorem isLive_iff (ledger : Ledger since added queued pending exchange)
    (retained : Retained pending) {task : RequestTask σ} (member : task ∈ added) :
    IsLive ⟨queued.map .request, pending.map .request⟩ exchange task ↔
      ∃ current ∈ queued ++ pending, current.key = task.key ∧ current.disconnected = false ∧
        (current ∈ pending → exchange.isAnswered task.key = false) := by
  have stays {current : RequestTask σ} (held : current ∈ queued ++ pending)
      (key : current.key = task.key) :
      current.disconnected = false ↔ .disconnect task.key ∉ exchange.calls := by
    rw [← key, ← ledger.left current held, Bool.not_eq_true]
  constructor
  · rintro (⟨current, listed, same, left⟩ | flying)
    · obtain ⟨_, present, ⟨⟩⟩ := List.mem_map.mp listed
      have held : current ∈ queued ++ pending := List.mem_append_left _ present
      refine ⟨current, held, same.key, (stays held same.key).mpr left, fun ran => ?_⟩
      have uncalled := (ledger.waiting current present).2
      exact absurd (ledger.started current ran).2 uncalled
    · obtain ⟨current, present, key⟩ := ledger.kept task member flying
      have held : current ∈ queued ++ pending := List.mem_append_right _ present
      exact ⟨current, held, key, (stays held key).mpr flying.stays, fun _ => flying.unanswered⟩
  · rintro ⟨current, held, key, stay, unanswered⟩
    have same := ledger.same held member key
    rcases List.mem_append.mp held with present | present
    · exact .inl ⟨current, List.mem_map_of_mem present, same, (stays held key).mp stay⟩
    · obtain ⟨_, isAsync, expected⟩ := retained current present
      right
      rw [← ledger.isPending_iff present member key, current.isPending_iff]
      exact ⟨(ledger.started current present).1, stay, isAsync, expected,
        key ▸ unanswered present⟩

/-- Keys are distinct, so a task that hears of a client is the only one with its key. -/
theorem countP_hears (once : ((queued ++ pending).map (·.key)).Nodup) {client : ClientId}
    {current : RequestTask σ} (held : current ∈ queued ++ pending)
    (hears : current.hears client = true) :
    (queued ++ pending).countP (fun task => task.hears client && task.key = current.key) = 1 := by
  have keyed : ∀ task ∈ queued ++ pending,
      (task.hears client && task.key = current.key) = true ↔ (task.key == current.key) = true := by
    intro task member
    rw [Bool.and_eq_true, decide_eq_true_iff, beq_iff_eq, and_iff_right_iff_imp]
    intro key
    rwa [List.inj_on_of_nodup_map once member held key]
  have counted := List.count_eq_one_of_mem once (List.mem_map_of_mem held)
  rw [List.count, List.countP_map] at counted
  rw [List.countP_congr keyed]
  exact counted

/-- Whatever was done before, the hooks of exactly the live tasks are called, unless one of the
pending tasks of the client has been answered. -/
theorem disconnects_live_iff (run : Run added manager exchange) (client : ClientId) :
    manager.DisconnectsLive added exchange client ↔ ¬ manager.HasStale exchange client := by
  obtain ⟨queued, pending, rfl, ledger, retained⟩ := run.accounts
  constructor
  · rintro law ⟨task, listed, leaves, answered⟩
    obtain ⟨_, present, ⟨⟩⟩ := List.mem_map.mp listed
    have held : task ∈ queued ++ pending := List.mem_append_right _ present
    have hears : task.hears client = true := by
      simp [RequestTask.hears, leaves, (retained task present).1]
    -- the hook of the answered task is called although no live task has its key
    have silent := law.other task.key fun first member key _ live => by
      obtain ⟨current, there, same, _, unanswered⟩ :=
        (isLive_iff ledger retained member).mp live
      have one := List.inj_on_of_nodup_map ledger.once there held (same.trans key)
      rw [key, one] at unanswered
      rw [unanswered present] at answered
      cases answered
    rw [disconnect_count, countP_hears ledger.once held hears] at silent
    omega
  · intro fresh
    constructor
    · intro task member leaves live
      obtain ⟨current, held, key, stays, _⟩ := (isLive_iff ledger retained member).mp live
      have hears : current.hears client = true := by
        simp [RequestTask.hears, (ledger.same held member key).request, leaves, stays]
      rw [disconnect_count, ← key, countP_hears ledger.once held hears]
    · intro key silent
      rw [disconnect_count, Nat.add_eq_left, List.countP_eq_zero]
      intro current held heard
      simp only [RequestTask.hears, Bool.and_eq_true, decide_eq_true_eq,
        Bool.not_eq_true'] at heard
      obtain ⟨⟨leaves, stays⟩, here⟩ := heard
      obtain ⟨first, member, same⟩ := ledger.origin current held
      refine silent first member (same.key.symm.trans here) (same.request ▸ leaves) ?_
      refine (isLive_iff ledger retained member).mpr ⟨current, held, same.key, stays, ?_⟩
      intro present
      by_contra answered
      rw [Bool.not_eq_false, ← same.key] at answered
      exact fresh ⟨current, List.mem_map_of_mem present, leaves, answered⟩

/-- The hook of a task in flight is called when its client leaves. -/
theorem disconnects_live_hold :
    TaskManager.DisconnectsLive [holdTask] holdManager.1 holdManager.2 ⟨1⟩ ∧
      (holdManager.1.disconnect ⟨1⟩ holdManager.2).2.calls = [.request 0, .disconnect 0] := by
  have pending : holdManager.1.pending = [.request { holdTask with running := true }] := rfl
  have fresh : ¬ holdManager.1.HasStale holdManager.2 ⟨1⟩ := by
    rintro ⟨task, listed, _, answered⟩
    rw [pending, List.mem_singleton] at listed
    cases listed
    revert answered
    decide +kernel
  exact ⟨(disconnects_live_iff holdManager_run ⟨1⟩).mpr fresh, by decide +kernel⟩

/-- The exchange after a reply that an update sent, with the task still in the pending list. -/
def holdAnswered : Exchange Unit :=
  holdManager.2.perform (.reply 0 (.ok .null))

/-- The hook of the answered request is called all the same, so exactness fails. -/
theorem disconnect_hears_answered :
    TaskManager.Run [holdTask] holdManager.1 holdAnswered ∧
      holdAnswered.isAnswered 0 = true ∧
      (holdManager.1.disconnect ⟨1⟩ holdAnswered).2.calls = [.request 0, .disconnect 0] ∧
      ¬ TaskManager.DisconnectsLive [holdTask] holdManager.1 holdAnswered ⟨1⟩ := by
  have answered : holdAnswered.isAnswered 0 = true := by decide +kernel
  refine ⟨holdManager_run.act (.reply 0 (.ok .null)), answered, by decide +kernel, ?_⟩
  intro law
  have silent := law.other 0 fun task member _ _ live => by
    rw [List.mem_singleton] at member
    subst member
    rcases live with ⟨current, queued, _⟩ | flying
    · cases queued
    · have unanswered : holdAnswered.isAnswered 0 = false := flying.unanswered
      rw [answered] at unanswered
      cases unanswered
  revert silent
  decide +kernel

end TaskManager

end RpcDispatch
