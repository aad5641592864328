import RpcDispatch.Proofs.Task.Lists
import Mathlib.Data.List.Nodup

/-
This file keeps account of the tasks of a manager.  The account compares the two lists of the
manager with all tasks that were added to it, and with the hooks that were called for them.
-/

namespace RpcDispatch

open Exchange (Leads)

variable {σ : Type}

/-- A task is in flight from the call of an asynchronous entrypoint until its request is answered
or its client leaves. -/
structure InFlight (task : RequestTask σ) (exchange : Exchange σ) : Prop where
  isAsync : task.entrypoint.isAsync = true
  expected : task.request.isNotification = false
  called : .request task.key ∈ exchange.calls
  stays : .disconnect task.key ∉ exchange.calls
  unanswered : exchange.isAnswered task.key = false

/-- A task that is in flight after a stretch without its own request hook was in flight before. -/
theorem InFlight.of_leads {hooks : Hook → Prop} {before after : Exchange σ}
    {task : RequestTask σ} (flying : InFlight task after) (leads : Leads anyKey hooks before after)
    (other : ¬ hooks (.request task.key)) : InFlight task before := by
  have within := before.othersCloseOnly_anyKey
  refine ⟨flying.isAsync, flying.expected, ?_, ?_, ?_⟩
  · exact (leads.mem_calls_iff within other).mp flying.called
  · exact fun left => flying.stays (leads.mem_calls within left)
  · by_contra answered
    rw [Bool.not_eq_false] at answered
    have still := leads.answered within answered
    rw [flying.unanswered] at still
    cases still

/-- Two forms of one task that differ at most in whether it was cancelled. -/
structure RequestTask.Alike (first second : RequestTask σ) : Prop extends first.Same second where
  running : first.running = second.running
  disconnected : first.disconnected = second.disconnected

theorem RequestTask.Alike.refl (task : RequestTask σ) : task.Alike task :=
  ⟨.refl task, rfl, rfl⟩

theorem RequestTask.cancel_alike (task : RequestTask σ) (exchange : Exchange σ) :
    (task.cancel exchange).2.1.Alike task := by
  rcases task.cancel_task exchange with same | same
  · rw [same]
    exact .refl task
  · rw [same]
    exact ⟨⟨rfl, rfl, rfl⟩, rfl, rfl⟩

/-- Where one task of a list is changed, every task is alike an old one. -/
theorem mem_replaced {front rest : List (RequestTask σ)} {task changed : RequestTask σ}
    (alike : changed.Alike task) :
    ∀ new ∈ front ++ changed :: rest, ∃ old ∈ front ++ task :: rest, new.Alike old := by
  intro new member
  rw [List.mem_append, List.mem_cons] at member
  rcases member with early | rfl | late
  · exact ⟨new, by simp [early], .refl new⟩
  · exact ⟨task, by simp, alike⟩
  · exact ⟨new, by simp [late], .refl new⟩

/-- The account of the tasks that were added for requests from the key `since` on, of which some
are queued and some are pending. -/
structure Ledger (since : Key) (added queued pending : List (RequestTask σ))
    (exchange : Exchange σ) : Prop where
  enrolled : ∀ task ∈ added, exchange.requests[task.key]? = some task.request
  distinct : (added.map (·.key)).Nodup
  once : ((queued ++ pending).map (·.key)).Nodup
  origin : ∀ task ∈ queued ++ pending, ∃ first ∈ added, task.Same first
  fresh : ∀ key, since ≤ key → (∀ task ∈ added, task.key ≠ key) →
    .request key ∉ exchange.calls ∧ .disconnect key ∉ exchange.calls
  waiting : ∀ task ∈ queued, task.running = false ∧ .request task.key ∉ exchange.calls
  started : ∀ task ∈ pending, task.running = true ∧ .request task.key ∈ exchange.calls
  left : ∀ task ∈ queued ++ pending,
    task.disconnected = true ↔ .disconnect task.key ∈ exchange.calls
  kept : ∀ task ∈ added, InFlight task exchange → ∃ held ∈ pending, held.key = task.key

namespace Ledger

variable {since : Key} {added queued pending queued' pending' : List (RequestTask σ)}
  {before after : Exchange σ} {hooks : Hook → Prop}

/-- An account of nothing. -/
theorem start (exchange : Exchange σ) (fresh : ∀ key, since ≤ key →
    .request key ∉ exchange.calls ∧ .disconnect key ∉ exchange.calls) :
    Ledger since [] [] [] exchange where
  enrolled := by simp
  distinct := by simp
  once := by simp
  origin := by simp
  fresh key recent _ := fresh key recent
  waiting := by simp
  started := by simp
  left := by simp
  kept := by simp

/-- A held task and an added task with its key are the same. -/
theorem same (ledger : Ledger since added queued pending before) {task first : RequestTask σ}
    (held : task ∈ queued ++ pending) (member : first ∈ added) (key : task.key = first.key) :
    task.Same first := by
  obtain ⟨other, present, same⟩ := ledger.origin task held
  have one : other = first :=
    List.inj_on_of_nodup_map ledger.distinct present member (same.key.symm.trans key)
  rwa [one] at same

/-- A pending task is asked the same as whether it is in flight. -/
theorem isPending_iff (ledger : Ledger since added queued pending before) {task first : RequestTask σ}
    (held : task ∈ pending) (member : first ∈ added) (key : task.key = first.key) :
    task.isPending before = true ↔ InFlight first before := by
  have whole : task ∈ queued ++ pending := List.mem_append_right queued held
  have same := ledger.same whole member key
  obtain ⟨running, called⟩ := ledger.started task held
  have left := ledger.left task whole
  rw [task.isPending_iff]
  constructor
  · rintro ⟨_, stays, isAsync, expected, unanswered⟩
    refine ⟨same.entrypoint ▸ isAsync, same.request ▸ expected, key ▸ called, ?_,
      key ▸ unanswered⟩
    rw [← key, ← left, stays]
    exact Bool.false_ne_true
  · intro flying
    rw [same.entrypoint, same.request, key]
    refine ⟨running, ?_, flying.isAsync, flying.expected, flying.unanswered⟩
    rw [← Bool.not_eq_true, left, key]
    exact flying.stays

/-- Held tasks close no more than the tasks that were added. -/
theorem tasksCloseOnly {closes : Key → Prop} (ledger : Ledger since added queued pending before)
    (allowed : TasksCloseOnly closes added) : TasksCloseOnly closes (queued ++ pending) := by
  intro task held
  obtain ⟨first, present, same⟩ := ledger.origin task held
  rw [same.entrypoint]
  exact allowed first present

/-! ### Changes of the lists -/

/-- The lists may be reordered and lose tasks that are not in flight; tasks may be cancelled. -/
theorem recast (ledger : Ledger since added queued pending before)
    (queue : ∀ task ∈ queued', ∃ old ∈ queued, task.Alike old)
    (run : ∀ task ∈ pending', ∃ old ∈ pending, task.Alike old)
    (once : ((queued' ++ pending').map (·.key)).Nodup)
    (kept : ∀ task ∈ added, InFlight task before → ∃ held ∈ pending', held.key = task.key) :
    Ledger since added queued' pending' before := by
  have whole : ∀ task ∈ queued' ++ pending', ∃ old ∈ queued ++ pending, task.Alike old := by
    intro task member
    rcases List.mem_append.mp member with member | member
    · obtain ⟨old, present, alike⟩ := queue task member
      exact ⟨old, List.mem_append_left _ present, alike⟩
    · obtain ⟨old, present, alike⟩ := run task member
      exact ⟨old, List.mem_append_right _ present, alike⟩
  refine ⟨ledger.enrolled, ledger.distinct, once, ?_, ledger.fresh, ?_, ?_, ?_, kept⟩
  · intro task member
    obtain ⟨old, present, alike⟩ := whole task member
    obtain ⟨first, added, same⟩ := ledger.origin old present
    exact ⟨first, added, alike.toSame.trans same⟩
  · intro task member
    obtain ⟨old, present, alike⟩ := queue task member
    rw [alike.running, alike.key]
    exact ledger.waiting old present
  · intro task member
    obtain ⟨old, present, alike⟩ := run task member
    rw [alike.running, alike.key]
    exact ledger.started old present
  · intro task member
    obtain ⟨old, present, alike⟩ := whole task member
    rw [alike.disconnected, alike.key]
    exact ledger.left old present

/-- One task of either list may be cancelled. -/
theorem cancel (ledger : Ledger since added queued pending before) {front rest : List (RequestTask σ)}
    {task marked : RequestTask σ} (alike : marked.Alike task) :
    (queued = front ++ task :: rest → Ledger since added (front ++ marked :: rest) pending before) ∧
      (pending = front ++ task :: rest → Ledger since added queued (front ++ marked :: rest) before) := by
  have replaced : ∀ new ∈ front ++ marked :: rest,
      ∃ old ∈ front ++ task :: rest, new.Alike old := by
    intro new member
    rcases List.mem_append.mp member with member | member
    · exact ⟨new, by simp [member], .refl new⟩
    · rcases List.mem_cons.mp member with here | member
      · exact ⟨task, by simp, here ▸ alike⟩
      · exact ⟨new, by simp [member], .refl new⟩
  have keys : (front ++ marked :: rest).map (·.key) = (front ++ task :: rest).map (·.key) := by
    simp [alike.key]
  constructor
  · rintro rfl
    refine ledger.recast replaced (fun held member => ⟨held, member, .refl held⟩) ?_ ledger.kept
    rw [List.map_append, keys, ← List.map_append]
    exact ledger.once
  · rintro rfl
    refine ledger.recast (fun held member => ⟨held, member, .refl held⟩) replaced ?_ ?_
    · rw [List.map_append, keys, ← List.map_append]
      exact ledger.once
    · intro first member flying
      obtain ⟨held, present, key⟩ := ledger.kept first member flying
      have listed : held.key ∈ (front ++ marked :: rest).map (·.key) := by
        rw [keys]
        exact List.mem_map_of_mem present
      obtain ⟨new, there, same⟩ := List.mem_map.mp listed
      exact ⟨new, there, same.trans key⟩

/-! ### Stretches -/

/-- A stretch that runs and disconnects no task leaves the account as it is. -/
theorem quiet (ledger : Ledger since added queued pending before)
    (leads : Leads anyKey hooks before after)
    (calm : ∀ key, ¬ hooks (.request key) ∧ ¬ hooks (.disconnect key)) :
    Ledger since added queued pending after := by
  have within := before.othersCloseOnly_anyKey
  have requests := leads.requests within
  have run (key : Key) := leads.mem_calls_iff within (calm key).1
  have left (key : Key) := leads.mem_calls_iff within (calm key).2
  refine ⟨?_, ledger.distinct, ledger.once, ledger.origin, ?_, ?_, ?_, ?_, ?_⟩
  · rw [requests]
    exact ledger.enrolled
  · intro key recent
    rw [run, left]
    exact ledger.fresh key recent
  · intro task member
    rw [run]
    exact ledger.waiting task member
  · intro task member
    rw [run]
    exact ledger.started task member
  · intro task member
    rw [left]
    exact ledger.left task member
  · intro task member flying
    exact ledger.kept task member (flying.of_leads leads (calm task.key).1)

/-- Pruning keeps the account. -/
theorem prune (ledger : Ledger since added queued pending before) :
    ∃ kept, (TaskManager.keepPending (pending.map .request) before).1 = kept.map .request ∧
      (∀ task ∈ kept, task.disconnected = false) ∧ kept.Sublist pending ∧
      Ledger since added queued kept (TaskManager.keepPending (pending.map .request) before).2 := by
  obtain ⟨kept, same, sublist, stay, complete⟩ :=
    TaskManager.keepPending_request pending before
  have leads : Leads anyKey noHook before
      (TaskManager.keepPending (pending.map .request) before).2 :=
    TaskManager.keepPending_leads _ _
  have later := ledger.quiet leads fun _ => ⟨id, id⟩
  refine ⟨kept, same, stay, sublist, later.recast
    (fun task member => ⟨task, member, .refl task⟩)
    (fun task member => ⟨task, sublist.subset member, .refl task⟩) ?_ ?_⟩
  · exact ledger.once.sublist ((sublist.append_left queued).map _)
  · intro first member flying
    obtain ⟨held, present, key⟩ := later.kept first member flying
    exact ⟨held, complete held present ((later.isPending_iff present member key).mpr flying), key⟩

/-- A request that becomes no task is no concern of the account. -/
theorem enroll (ledger : Ledger since added queued pending before) (request : Request) :
    Ledger since added queued pending (before.enroll request).2 := by
  have requests := before.enroll_requests request
  refine ⟨?_, ledger.distinct, ledger.once, ledger.origin, ledger.fresh, ledger.waiting,
    ledger.started, ledger.left, ?_⟩
  · intro task member
    have found := ledger.enrolled task member
    rw [requests, List.getElem?_append_left (List.getElem?_eq_some_iff.mp found).1]
    exact found
  · intro task member flying
    refine ledger.kept task member ⟨flying.isAsync, flying.expected, flying.called, flying.stays, ?_⟩
    have short := (List.getElem?_eq_some_iff.mp (ledger.enrolled task member)).1
    have bound : task.key < before.channels.length := by
      simpa [Exchange.requests] using short
    have same := flying.unanswered
    simp only [Exchange.isAnswered, Exchange.channel?, Exchange.enroll,
      List.getElem?_append_left bound] at same
    exact same

/-- A new task for a request without one is put at the front of the queue. -/
theorem put (ledger : Ledger since added queued pending before) (key : Key) (request : Request)
    (entrypoint : Entrypoint σ) (recent : since ≤ key)
    (enrolled : before.requests[key]? = some request) (new : ∀ task ∈ added, task.key ≠ key) :
    Ledger since (added ++ [.create key request entrypoint])
      (.create key request entrypoint :: queued) pending before := by
  have uncalled := ledger.fresh key recent new
  have listed {task : RequestTask σ} (member : task ∈ added ++ [.create key request entrypoint]) :
      task ∈ added ∨ task = .create key request entrypoint := by
    simpa using member
  refine ⟨?_, ?_, ?_, ?_, ?_, ?_, ledger.started, ?_, ?_⟩
  · intro task member
    rcases listed member with member | rfl
    · exact ledger.enrolled task member
    · exact enrolled
  · rw [List.map_append, List.map_singleton, List.nodup_append]
    refine ⟨ledger.distinct, by simp, ?_⟩
    intro first member second last same
    obtain ⟨task, present, rfl⟩ := List.mem_map.mp member
    rw [List.mem_singleton] at last
    exact new task present (same.trans last)
  · rw [List.cons_append, List.map_cons, List.nodup_cons]
    refine ⟨?_, ledger.once⟩
    intro member
    obtain ⟨task, held, same⟩ := List.mem_map.mp member
    obtain ⟨first, present, origin⟩ := ledger.origin task held
    exact new first present (origin.key.symm.trans same)
  · rintro task (_ | ⟨_, member⟩)
    · exact ⟨_, List.mem_append_right _ (List.mem_singleton_self _), .refl _⟩
    · obtain ⟨first, present, same⟩ := ledger.origin task member
      exact ⟨first, List.mem_append_left _ present, same⟩
  · intro other later strange
    exact ledger.fresh other later fun task member => strange task (by simp [member])
  · rintro task (_ | ⟨_, member⟩)
    · exact ⟨rfl, uncalled.1⟩
    · exact ledger.waiting task member
  · rintro task (_ | ⟨_, member⟩)
    · simpa [RequestTask.create] using uncalled.2
    · exact ledger.left task member
  · intro task member flying
    rcases listed member with member | rfl
    · exact ledger.kept task member flying
    · exact absurd flying.called uncalled.1

/-! ### Running -/

/-- A task that is spent leaves the queue without a call. -/
theorem run_spent {task : RequestTask σ} (ledger : Ledger since added (task :: queued) pending before)
    (spent : task.IsSpent) : Ledger since added queued pending (task.run before).2 := by
  have leads : Leads anyKey noHook before (task.run before).2 :=
    task.run_leads_of_spent before spent
  have later := ledger.quiet leads fun _ => ⟨id, id⟩
  refine later.recast (fun held member => ⟨held, List.mem_cons_of_mem _ member, .refl held⟩)
    (fun held member => ⟨held, member, .refl held⟩) ?_ later.kept
  have once := later.once
  rw [List.cons_append, List.map_cons, List.nodup_cons] at once
  exact once.2

/-- A task that is not spent is called, and goes from the queue to the tasks that have run. -/
theorem run_fresh {task : RequestTask σ} (ledger : Ledger since added (task :: queued) pending before)
    (fresh : ¬ task.IsSpent) :
    Ledger since added queued (pending ++ [{ task with running := true }]) (task.run before).2 := by
  have within := before.othersCloseOnly_anyKey
  have leads : Leads anyKey (· = .request task.key) before (task.run before).2 :=
    task.run_leads before task.entrypoint.closesOnly_anyKey
  have requests := leads.requests within
  have whole : ∀ held ∈ queued ++ (pending ++ [{ task with running := true }]),
      ∃ old ∈ task :: queued ++ pending,
        held.Same old ∧ held.disconnected = old.disconnected := by
    intro held member
    simp only [List.mem_append, List.mem_singleton] at member
    rcases member with member | member | rfl
    · exact ⟨held, by simp [member], .refl held, rfl⟩
    · exact ⟨held, by simp [member], .refl held, rfl⟩
    · exact ⟨task, by simp, ⟨rfl, rfl, rfl⟩, rfl⟩
  have apart : ∀ held ∈ queued ++ pending, held.key ≠ task.key := by
    intro held member key
    have once := ledger.once
    rw [List.cons_append, List.map_cons, List.nodup_cons] at once
    exact once.1 (List.mem_map.mpr ⟨held, member, key⟩)
  have called : .request task.key ∈ (task.run before).2.calls := by
    rw [← List.count_pos_iff, task.run_count before, if_neg fresh]
    exact Nat.succ_pos _
  have other {key : Key} (different : key ≠ task.key) :
      .request key ∈ (task.run before).2.calls ↔ .request key ∈ before.calls :=
    leads.mem_calls_iff within (by simpa using different)
  have left (key : Key) :
      .disconnect key ∈ (task.run before).2.calls ↔ .disconnect key ∈ before.calls :=
    leads.mem_calls_iff within (by simp)
  refine ⟨?_, ledger.distinct, ?_, ?_, ?_, ?_, ?_, ?_, ?_⟩
  · rw [requests]
    exact ledger.enrolled
  · have moved : ((queued ++ (pending ++ [{ task with running := true }])).map
        RequestTask.key).Perm ((task :: queued ++ pending).map RequestTask.key) := by
      rw [← List.append_assoc, List.map_append]
      exact List.perm_append_singleton _ _
    exact moved.nodup_iff.mpr ledger.once
  · intro held member
    obtain ⟨old, present, same, _⟩ := whole held member
    obtain ⟨first, there, origin⟩ := ledger.origin old present
    exact ⟨first, there, same.trans origin⟩
  · intro key recent strange
    obtain ⟨first, present, origin⟩ := ledger.origin task (by simp)
    rw [other fun same => strange first present (origin.key.symm.trans same.symm), left]
    exact ledger.fresh key recent strange
  · intro held member
    rw [other (apart held (by simp [member]))]
    exact ledger.waiting held (by simp [member])
  · intro held member
    rcases List.mem_append.mp member with member | member
    · rw [other (apart held (by simp [member]))]
      exact ledger.started held member
    · rw [List.mem_singleton] at member
      subst member
      exact ⟨rfl, called⟩
  · intro held member
    obtain ⟨old, present, same, flag⟩ := whole held member
    rw [flag, same.key, left]
    exact ledger.left old present
  · intro first member flying
    by_cases hit : first.key = task.key
    · exact ⟨_, List.mem_append_right _ (List.mem_singleton_self _), hit.symm⟩
    · obtain ⟨held, present, key⟩ :=
        ledger.kept first member (flying.of_leads leads (by simpa using hit))
      exact ⟨held, List.mem_append_left _ present, key⟩

/-- The last of the tasks that have run may be forgotten when it is not pending. -/
theorem drop {task : RequestTask σ} (ledger : Ledger since added queued (pending ++ [task]) before)
    (done : task.isPending before = false) : Ledger since added queued pending before := by
  refine ledger.recast (fun held member => ⟨held, member, .refl held⟩)
    (fun held member => ⟨held, List.mem_append_left _ member, .refl held⟩) ?_ ?_
  · have once := ledger.once
    rw [← List.append_assoc, List.map_append] at once
    exact once.sublist (List.sublist_append_left _ _)
  · intro first member flying
    obtain ⟨held, present, key⟩ := ledger.kept first member flying
    have pends := (ledger.isPending_iff present member key).mpr flying
    rcases List.mem_append.mp present with present | present
    · exact ⟨held, present, key⟩
    · rw [List.mem_singleton] at present
      rw [present, done] at pends
      cases pends

/-- The first task of the queue runs and is kept if it is pending. -/
theorem run {task : RequestTask σ} (ledger : Ledger since added (task :: queued) pending before) :
    Ledger since added queued
      (if (task.run before).1.isPending (task.run before).2.pause then
        pending ++ [(task.run before).1] else pending)
      (task.run before).2.pause := by
  have turn : Leads anyKey noHook (task.run before).2 (task.run before).2.pause :=
    Exchange.pause_leads _
  by_cases spent : task.IsSpent
  · have idle := (ledger.waiting task (by simp)).1
    have done : (task.run before).1.isPending (task.run before).2.pause = false := by
      rw [task.run_fst before, if_pos spent]
      simp [RequestTask.isPending, idle]
    rw [done]
    exact (ledger.run_spent spent).quiet turn fun _ => ⟨id, id⟩
  · have later := (ledger.run_fresh spent).quiet turn fun _ => ⟨id, id⟩
    rw [task.run_fst before, if_neg spent]
    split_ifs with pends
    · exact later
    · exact later.drop (by simpa using pends)

/-! ### Disconnecting -/

/-- The tasks of a client are marked, and their hooks are called. -/
theorem leave (ledger : Ledger since added queued pending before) (client : ClientId)
    (leads : Leads anyKey (fun hook => ∃ key, hook = .disconnect key) before after)
    (counted : ∀ key, after.calls.count (.disconnect key) =
      before.calls.count (.disconnect key) +
        (queued ++ pending).countP fun task => task.hears client && task.key = key) :
    Ledger since added (queued.map (·.leave client)) (pending.map (·.leave client)) after := by
  have within := before.othersCloseOnly_anyKey
  have requests := leads.requests within
  have run (key : Key) : .request key ∈ after.calls ↔ .request key ∈ before.calls :=
    leads.mem_calls_iff within (by simp)
  have whole : ∀ task ∈ queued.map (·.leave client) ++ pending.map (·.leave client),
      ∃ old ∈ queued ++ pending, task = old.leave client := by
    intro task member
    rw [← List.map_append] at member
    obtain ⟨old, present, same⟩ := List.mem_map.mp member
    exact ⟨old, present, same.symm⟩
  have keys (tasks : List (RequestTask σ)) :
      (tasks.map (·.leave client)).map (·.key) = tasks.map (·.key) := by
    rw [List.map_map]
    exact List.map_congr_left fun task _ => (task.leave_same client).key
  -- a hook of a key is called when one of the tasks with the key hears of the client
  have heard (key : Key) : .disconnect key ∈ after.calls ↔ .disconnect key ∈ before.calls ∨
      ∃ task ∈ queued ++ pending, task.hears client = true ∧ task.key = key := by
    rw [← List.count_pos_iff, counted key, Nat.add_pos_iff_pos_or_pos, List.count_pos_iff,
      List.countP_pos_iff]
    simp
  refine ⟨?_, ledger.distinct, ?_, ?_, ?_, ?_, ?_, ?_, ?_⟩
  · rw [requests]
    exact ledger.enrolled
  · rw [List.map_append, keys, keys, ← List.map_append]
    exact ledger.once
  · intro task member
    obtain ⟨old, present, rfl⟩ := whole task member
    obtain ⟨first, there, same⟩ := ledger.origin old present
    exact ⟨first, there, (old.leave_same client).trans same⟩
  · intro key recent strange
    have fresh := ledger.fresh key recent strange
    rw [run, heard]
    refine ⟨fresh.1, ?_⟩
    rintro (called | ⟨task, held, _, rfl⟩)
    · exact fresh.2 called
    · obtain ⟨first, present, same⟩ := ledger.origin task held
      exact strange first present same.key.symm
  · intro task member
    obtain ⟨old, present, rfl⟩ := List.mem_map.mp member
    rw [old.leave_running, (old.leave_same client).key, run]
    exact ledger.waiting old present
  · intro task member
    obtain ⟨old, present, rfl⟩ := List.mem_map.mp member
    rw [old.leave_running, (old.leave_same client).key, run]
    exact ledger.started old present
  · intro task member
    obtain ⟨old, present, rfl⟩ := whole task member
    have flag := ledger.left old present
    rw [(old.leave_same client).key, heard]
    constructor
    · intro gone
      by_cases before : old.disconnected = true
      · exact .inl (flag.mp before)
      · refine .inr ⟨old, present, ?_, rfl⟩
        unfold RequestTask.leave at gone
        split_ifs at gone with own
        · simp [RequestTask.hears, own, before]
        · exact absurd gone before
    · rintro (called | ⟨other, held, hears, key⟩)
      · unfold RequestTask.leave
        split_ifs
        · rfl
        · exact flag.mpr called
      · have one : other = old := List.inj_on_of_nodup_map ledger.once held present key
        subst one
        simp only [RequestTask.hears, Bool.and_eq_true, decide_eq_true_eq] at hears
        simp [RequestTask.leave, hears.1]
  · intro first member flying
    obtain ⟨held, present, key⟩ := ledger.kept first member (flying.of_leads leads (by simp))
    exact ⟨held.leave client, List.mem_map_of_mem present, (held.leave_same client).key.trans key⟩

end Ledger

end RpcDispatch
