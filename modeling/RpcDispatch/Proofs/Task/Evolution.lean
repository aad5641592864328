import RpcDispatch.Proofs.Task.Standing

/-
This file follows one request task through the operations of a manager.  Each operation is a path in
the life of the task, and the hooks that it calls for the task are those of the path.
-/

namespace RpcDispatch

open Exchange (Leads)
open Stage (Path)

variable {σ : Type}

/-! ### The hooks that are called -/

/-- Every hook but the cancel hooks. -/
abbrev uncancelling : Hook → Prop := fun hook => ∀ key, hook ≠ .cancel key

/-- The cancel hooks. -/
abbrev cancelling : Hook → Prop := fun hook => ∃ key, hook = .cancel key

/-- Running a task cancels none. -/
theorem Task.leads_run (task : Task σ) (exchange : Exchange σ) :
    Leads anyKey uncancelling exchange (task.run exchange).2 := by
  cases task with
  | request task =>
      refine (task.run_leads exchange task.entrypoint.closesOnly_anyKey).widen ?_
      rintro hook rfl key
      simp
  | chunk task => exact task.run_leads exchange (Script.closesOnly_anyKey _)
  | external task => exact task.run.run_leads exchange (Script.closesOnly_anyKey _)

/-- Disconnecting a task cancels none. -/
theorem Task.leads_disconnect (task : Task σ) (exchange : Exchange σ) :
    Leads anyKey uncancelling exchange (task.disconnect exchange).2 := by
  cases task with
  | request task =>
      refine (task.disconnect_leads exchange task.entrypoint.closesOnly_anyKey trivial).widen ?_
      rintro hook ⟨_, rfl⟩ key
      simp
  | chunk task => exact .refl exchange
  | external task => exact task.disconnect.run_leads exchange (Script.closesOnly_anyKey _)

/-- Cancelling a task calls no other hooks. -/
theorem Task.leads_cancel (task : Task σ) (exchange : Exchange σ) :
    Leads anyKey cancelling exchange (task.cancel exchange).2.2 := by
  cases task with
  | request task =>
      refine (task.cancel_leads exchange task.entrypoint.closesOnly_anyKey).widen ?_
      rintro hook rfl
      exact ⟨_, rfl⟩
  | chunk task => exact .refl exchange
  | external task => exact task.cancel.run_leads exchange (Script.closesOnly_anyKey _)

namespace TaskManager

variable {task : RequestTask σ} {allowed : Change → Prop}

/-- Adding a task calls no cancellation hook. -/
theorem leads_add (manager : TaskManager σ) (added : Task σ) (exchange : Exchange σ) :
    Leads anyKey uncancelling exchange (manager.add added exchange).2 := by
  unfold TaskManager.add
  split_ifs
  · exact (((Leads.refl exchange).log _).trans (added.leads_run _)).pause
  · exact (Leads.refl exchange).log _

/-- Draining a queue calls no cancellation hook. -/
theorem leads_drain (queue pending : List (Task σ)) (exchange : Exchange σ) :
    Leads anyKey uncancelling exchange (drain queue pending exchange).2 := by
  induction queue generalizing pending exchange with
  | nil => exact .refl exchange
  | cons first queue ih => exact (first.leads_run exchange).pause.trans (ih _ _)

/-- Running the queue calls no cancellation hook. -/
theorem leads_runAll (manager : TaskManager σ) (exchange : Exchange σ) :
    Leads anyKey uncancelling exchange (manager.runAll exchange).2 :=
  (leads_drain manager.queue manager.pending exchange).trans (keepPending_leads _ _)

/-- Disconnecting tasks calls no cancellation hook. -/
theorem leads_disconnectEach (client : ClientId) (tasks : List (Task σ)) (exchange : Exchange σ) :
    Leads anyKey uncancelling exchange (disconnectEach client tasks exchange).2 := by
  induction tasks generalizing exchange with
  | nil => exact .refl exchange
  | cons first tasks ih =>
      by_cases own : first.client = client
      · simpa [disconnectEach, own] using (first.leads_disconnect exchange).trans (ih _)
      · simpa [disconnectEach, own] using ih exchange

/-- A disconnection calls no cancellation hook. -/
theorem leads_disconnect (manager : TaskManager σ) (client : ClientId) (exchange : Exchange σ) :
    Leads anyKey uncancelling exchange (manager.disconnect client exchange).2 :=
  (((leads_disconnectEach client manager.queue exchange).trans
    (leads_disconnectEach client manager.pending _)).trans (keepPending_leads _ _)).log _

/-! ### Running -/

/-- An operation on one task of a list is one on the manager. -/
theorem evolves_replace (manager : TaskManager σ) (ran : Bool) (front rest : List (Task σ))
    {old new : Task σ} {before after : Exchange σ}
    (turns : Turns task allowed old before new after) :
    Evolves task allowed (manager.withTasks ran (front ++ old :: rest), before)
      (manager.withTasks ran (front ++ new :: rest), after) := by
  cases form : old.form? task.key with
  | none =>
      obtain ⟨other, calls⟩ := turns.other form
      apply Evolves.still
      · intro list
        simp only [tasks_withTasks]
        split_ifs
        · rw [Task.forms_append, Task.forms_append, Task.forms_cons_none form,
            Task.forms_cons_none other]
        · rfl
      · exact calls
  | some held =>
      intro stage stands
      obtain ⟨rfl, key⟩ := Task.form?_eq_some.mp form
      have listed := stands ran
      rw [tasks_withTasks, if_pos rfl, Task.forms_append, Task.forms_cons_some form] at listed
      obtain ⟨early, late, cancelled, disconnected, rfl, same⟩ := Stage.forms_eq_cons listed.symm
      obtain ⟨hooks, now, left, path, rfl, calls⟩ :=
        turns.own ran cancelled disconnected (by rw [same])
      refine ⟨hooks, _, path, ?_, calls⟩
      intro list
      have others := stands list
      simp only [tasks_withTasks, Stage.forms] at others ⊢
      by_cases here : list = ran
      · subst here
        rw [if_pos rfl, Task.forms_append, Task.forms_cons_some (Task.own_form task list now left),
          early, late]
        simp
      · simpa [here, Ne.symm here] using others

/-- What can happen to a task when the queue is drained. -/
abbrev Drains (change : Change) : Prop :=
  change = .start ∨ change = .skip ∨ change = .finish

/-- A task that is spent leaves the queue, and is not retained. -/
theorem evolves_spent {cancelled disconnected : Bool} (queue pending : List (Task σ))
    (exchange : Exchange σ) (spent : cancelled = true ∨ disconnected = true)
    (late : Task.forms task.key queue = []) (free : Task.forms task.key pending = []) :
    let ran := Task.run (.request (task.flagged false cancelled disconnected)) exchange
    let kept := retain pending ran.1 ran.2
    ∃ hooks next, Path task.key Drains (.held false cancelled disconnected) hooks next ∧
      Stands task next ⟨queue, kept.1⟩ ∧
        kept.2.callsFor task.key = exchange.callsFor task.key ++ hooks := by
  intro ran kept
  have idle : (task.flagged false cancelled disconnected).IsSpent := spent.symm.imp_right .inl
  have quiet : Leads anyKey noHook exchange ran.2.pause :=
    Leads.pause ((task.flagged false cancelled disconnected).run_leads_of_spent exchange idle)
  have same : ran.1 = .request (task.flagged false cancelled disconnected) := by
    simp only [ran, Task.run, RequestTask.run_fst, if_pos idle]
  have dropped : kept.1 = pending := by
    apply if_neg
    rw [same]
    simp [Task.isPending, RequestTask.isPending, RequestTask.flagged]
  refine ⟨[], .gone, (Stage.Step.skip _ _ spent).path (.inr (.inl rfl)), ?_, ?_⟩
  · rw [stands_iff, dropped]
    exact ⟨late, free⟩
  · rw [List.append_nil]
    exact quiet.callsFor_quiet

/-- A task that is not spent starts, and it finishes at once if it is not pending then. -/
theorem evolves_fresh (queue pending : List (Task σ)) (exchange : Exchange σ)
    (late : Task.forms task.key queue = []) (free : Task.forms task.key pending = []) :
    let ran := Task.run (.request (task.flagged false false false)) exchange
    let kept := retain pending ran.1 ran.2
    ∃ hooks next, Path task.key Drains (.held false false false) hooks next ∧
      Stands task next ⟨queue, kept.1⟩ ∧
        kept.2.callsFor task.key = exchange.callsFor task.key ++ hooks := by
  intro ran kept
  have fresh : ¬ (task.flagged false false false).IsSpent := by
    simp [RequestTask.IsSpent, RequestTask.flagged]
  have runs : ran.1 = .request (task.flagged true false false) := by
    simp only [ran, Task.run, RequestTask.run_fst, if_neg fresh]
    rfl
  have turn : Leads anyKey noHook ran.2 kept.2 := Exchange.pause_leads _
  have calls : kept.2.callsFor task.key = exchange.callsFor task.key ++ [.request task.key] :=
    turn.callsFor_quiet.trans ((task.flagged false false false).run_calls exchange fresh)
  have started : Path task.key Drains (.held false false false) [.request task.key]
      (.held true false false) := Stage.Step.start.path (.inl rfl)
  by_cases pends : ran.1.isPending ran.2.pause = true
  · have retained : kept.1 = pending ++ [ran.1] := if_pos pends
    refine ⟨_, _, started, ?_, calls⟩
    rw [stands_iff, retained, runs, Task.forms_append, free,
      Task.forms_cons_some (Task.own_form ..)]
    exact ⟨late, rfl⟩
  · have dropped : kept.1 = pending := if_neg pends
    refine ⟨_, .gone, .tail started (.inr (.inr rfl)) (Stage.Step.finish _ _), ?_, ?_⟩
    · rw [stands_iff, dropped]
      exact ⟨late, free⟩
    · rw [List.append_nil]
      exact calls

/-- Another task runs and is retained or not. -/
theorem evolves_other {first : Task σ} (queue pending : List (Task σ)) (exchange : Exchange σ)
    (form : first.form? task.key = none) :
    let ran := first.run exchange
    let kept := retain pending ran.1 ran.2
    Evolves task allowed (⟨queue, pending⟩, exchange) (⟨queue, kept.1⟩, kept.2) := by
  intro ran kept
  obtain ⟨other, calls⟩ := first.run_other task exchange form
  have turn : Leads anyKey noHook ran.2 kept.2 := Exchange.pause_leads _
  apply Evolves.still
  · intro list
    cases list with
    | false => rfl
    | true =>
        simp only [kept, retain, tasks]
        split_ifs
        · rw [Task.forms_append, Task.forms_cons_none other]
          simp [Task.forms]
        · rfl
  · exact turn.callsFor_quiet.trans calls

/-- Another task at the front of the queue runs. -/
theorem evolves_runOther {first : Task σ} (queue pending : List (Task σ)) (exchange : Exchange σ)
    (form : first.form? task.key = none) :
    let ran := first.run exchange
    let kept := retain pending ran.1 ran.2
    Evolves task allowed (⟨first :: queue, pending⟩, exchange) (⟨queue, kept.1⟩, kept.2) := by
  have forms (list : Bool) : Task.forms task.key (tasks ⟨queue, pending⟩ list) =
      Task.forms task.key (tasks ⟨first :: queue, pending⟩ list) := by
    cases list with
    | false => exact (Task.forms_cons_none form queue).symm
    | true => rfl
  have left : Evolves task allowed (⟨first :: queue, pending⟩, exchange)
      (⟨queue, pending⟩, exchange) := .still forms rfl
  exact left.trans (evolves_other queue pending exchange form)

/-- The first task of the queue runs and is retained if it is pending. -/
theorem evolves_runFirst (first : Task σ) (queue pending : List (Task σ)) (exchange : Exchange σ) :
    let ran := first.run exchange
    let kept := retain pending ran.1 ran.2
    Evolves task Drains (⟨first :: queue, pending⟩, exchange) (⟨queue, kept.1⟩, kept.2) := by
  intro ran kept
  cases form : first.form? task.key with
  | none => exact evolves_runOther queue pending exchange form
  | some held =>
      obtain ⟨rfl, key⟩ := Task.form?_eq_some.mp form
      intro stage stands
      obtain ⟨listed, free⟩ := stands_iff.mp stands
      rw [Task.forms_cons_some form, ← List.nil_append (held :: _)] at listed
      obtain ⟨-, late, cancelled, disconnected, rfl, rfl⟩ := Stage.forms_eq_cons listed.symm
      by_cases spent : cancelled = true ∨ disconnected = true
      · exact evolves_spent queue pending exchange spent late free
      · obtain ⟨rfl, rfl⟩ : cancelled = false ∧ disconnected = false := by simpa using spent
        exact evolves_fresh queue pending exchange late free

/-- Draining the queue runs its tasks one after another. -/
theorem evolves_drain (queue pending : List (Task σ)) (exchange : Exchange σ) :
    Evolves task Drains (⟨queue, pending⟩, exchange)
      (⟨[], (drain queue pending exchange).1⟩, (drain queue pending exchange).2) := by
  induction queue generalizing pending exchange with
  | nil => exact .refl _
  | cons first queue ih => exact (evolves_runFirst first queue pending exchange).trans (ih _ _)

/-- Pruning keeps some of the tasks, each of which was pending when it was asked. -/
theorem keepPending_sublist (tasks : List (Task σ)) (exchange : Exchange σ) :
    (keepPending tasks exchange).1.Sublist tasks ∧
      ∀ kept ∈ (keepPending tasks exchange).1, ∃ asked, Leads anyKey noHook exchange asked ∧
        kept.isPending asked = true := by
  induction tasks generalizing exchange with
  | nil => exact ⟨.slnil, by simp [keepPending]⟩
  | cons first tasks ih =>
      obtain ⟨sublist, pends⟩ := ih exchange.pause
      have turn : Leads anyKey noHook exchange exchange.pause := exchange.pause_leads
      have later : ∀ kept ∈ (keepPending tasks exchange.pause).1,
          ∃ asked, Leads anyKey noHook exchange asked ∧ kept.isPending asked = true := by
        intro kept member
        obtain ⟨asked, leads, still⟩ := pends kept member
        exact ⟨asked, turn.trans leads, still⟩
      unfold keepPending
      dsimp only
      split_ifs with pending
      · refine ⟨sublist.cons_cons first, ?_⟩
        rintro kept (_ | ⟨_, member⟩)
        · exact ⟨exchange.pause, turn, pending⟩
        · exact later kept member
      · exact ⟨sublist.cons first, later⟩

/-- Pruning only drops tasks. -/
theorem tasks_prune_sublist (manager : TaskManager σ) (exchange : Exchange σ) (ran : Bool) :
    ((manager.prune exchange).1.tasks ran).Sublist (manager.tasks ran) := by
  cases ran with
  | false => exact .refl _
  | true => exact (keepPending_sublist manager.pending exchange).1

/-- A task that is left was there before the finished ones were dropped. -/
theorem mem_of_prune {manager : TaskManager σ} {exchange : Exchange σ} {kept : Task σ} {ran : Bool}
    (member : kept ∈ (manager.prune exchange).1.tasks ran) : kept ∈ manager.tasks ran :=
  (tasks_prune_sublist manager exchange ran).subset member

/-- Pruning lets a task finish at most. -/
theorem evolves_prune (manager : TaskManager σ) (exchange : Exchange σ) :
    Evolves task (· = .finish) (manager, exchange) (manager.prune exchange) := by
  intro stage stands
  obtain ⟨queue, pending⟩ := stands_iff.mp stands
  have quiet : Leads anyKey noHook exchange (manager.prune exchange).2 :=
    keepPending_leads manager.pending exchange
  have sublist : (Task.forms task.key (manager.prune exchange).1.pending).Sublist
      (stage.forms task true) := by
    rw [← pending]
    exact (keepPending_sublist manager.pending exchange).1.filterMap _
  have calls : (manager.prune exchange).2.callsFor task.key = exchange.callsFor task.key ++ [] := by
    rw [List.append_nil]
    exact quiet.callsFor_quiet
  by_cases same : Task.forms task.key (manager.prune exchange).1.pending = stage.forms task true
  · exact ⟨[], stage, .refl, stands_iff.mpr ⟨queue, same⟩, calls⟩
  · cases stage with
    | new => exact absurd (List.sublist_nil.mp sublist) same
    | gone => exact absurd (List.sublist_nil.mp sublist) same
    | held running cancelled disconnected =>
        cases running with
        | false => exact absurd (List.sublist_nil.mp sublist) same
        | true =>
            have none : Task.forms task.key (manager.prune exchange).1.pending = [] :=
              (List.sublist_singleton.mp sublist).resolve_right same
            exact ⟨[], .gone, (Stage.Step.finish _ _).path rfl, stands_iff.mpr ⟨queue, none⟩, calls⟩

/-- Running all tasks drains the queue and prunes. -/
theorem evolves_runAll (manager : TaskManager σ) (exchange : Exchange σ) :
    Evolves task Drains (manager, exchange) (manager.runAll exchange) :=
  (evolves_drain manager.queue manager.pending exchange).trans
    ((evolves_prune ⟨[], _⟩ _).widen fun _ same => .inr (.inr same))

/-- The tasks of a client are disconnected one after another. -/
theorem evolves_disconnectEach (manager : TaskManager σ) (ran : Bool) (client : ClientId)
    (front tasks : List (Task σ)) (exchange : Exchange σ) :
    Evolves task (fun change => change = .leave ∧ task.request.client = client)
      (manager.withTasks ran (front ++ tasks), exchange)
      (manager.withTasks ran (front ++ (disconnectEach client tasks exchange).1),
        (disconnectEach client tasks exchange).2) := by
  induction tasks generalizing front exchange with
  | nil => exact .refl _
  | cons first tasks ih =>
      have turns := first.disconnect_own_turns task client exchange
      generalize left : (if first.client = client then first.disconnect exchange
        else (first, exchange)) = stepped at turns
      have each : disconnectEach client (first :: tasks) exchange =
          (stepped.1 :: (disconnectEach client tasks stepped.2).1,
            (disconnectEach client tasks stepped.2).2) := by
        rw [← left]
        rfl
      have later := ih (front ++ [stepped.1]) stepped.2
      rw [List.append_assoc, List.append_assoc, List.singleton_append, List.singleton_append]
        at later
      rw [each]
      exact (evolves_replace manager ran front tasks turns).trans later

/-- What can happen to a task when a client leaves. -/
abbrev Departs (task : RequestTask σ) (client : ClientId) (change : Change) : Prop :=
  change = .finish ∨ change = .leave ∧ task.request.client = client

/-- Disconnecting a client disconnects its tasks in both lists, and prunes. -/
theorem evolves_disconnect (manager : TaskManager σ) (client : ClientId) (exchange : Exchange σ) :
    Evolves task (Departs task client) (manager, exchange) (manager.disconnect client exchange) := by
  let left := disconnectEach client manager.queue exchange
  let gone := disconnectEach client manager.pending left.2
  have queue : Evolves task (Departs task client) (manager, exchange)
      (⟨left.1, manager.pending⟩, left.2) :=
    (evolves_disconnectEach manager false client [] manager.queue exchange).widen fun _ => .inr
  have pending : Evolves task (Departs task client) (⟨left.1, manager.pending⟩, left.2)
      (⟨left.1, gone.1⟩, gone.2) :=
    (evolves_disconnectEach ⟨left.1, manager.pending⟩ true client [] manager.pending
      left.2).widen fun _ => .inr
  have pruned : Evolves task (Departs task client) (⟨left.1, gone.1⟩, gone.2)
      (prune ⟨left.1, gone.1⟩ gone.2) := (evolves_prune _ _).widen fun _ => .inl
  have logged : Evolves task (Departs task client) (prune ⟨left.1, gone.1⟩ gone.2)
      (manager.disconnect client exchange) := .quiet _ ((Leads.refl _).log _)
  exact ((queue.trans pending).trans pruned).trans logged

/-! ### Cancelling -/

/-- The task that cancelling an identifier of a client would be about: the first one in the queue
and among the tasks that are still pending. -/
def target? (manager : TaskManager σ) (client : ClientId) (id : Rpc.Id) (exchange : Exchange σ) :
    Option (Task σ) :=
  ((manager.prune exchange).1.queue ++ (manager.prune exchange).1.pending).find?
    (·.isFor client id)

/-- The target is held by the manager. -/
theorem target?_mem {manager : TaskManager σ} {client : ClientId} {id : Rpc.Id}
    {exchange : Exchange σ} {found : Task σ}
    (target : manager.target? client id exchange = some found) :
    ∃ ran, found ∈ manager.tasks ran := by
  rcases List.mem_append.mp (List.mem_of_find?_eq_some target) with queued | pending
  · exact ⟨false, queued⟩
  · exact ⟨true, mem_of_prune pending⟩

/-- The target answers the identifier for its client. -/
theorem target?_named {manager : TaskManager σ} {client : ClientId} {id : Rpc.Id}
    {exchange : Exchange σ} {held : RequestTask σ}
    (target : manager.target? client id exchange = some (.request held)) :
    held.request.client = client ∧ held.request.id = id := by
  simpa [Task.isFor, Task.client, Task.id] using List.find?_some target

/-- Cancelling in a list fails when no task of it answers the identifier, and otherwise cancels the
first one that does. -/
theorem cancelFirst_cases (client : ClientId) (id : Rpc.Id) (tasks : List (Task σ))
    (exchange : Exchange σ) :
    (cancelFirst client id tasks exchange = none ∧
        ∀ task ∈ tasks, task.isFor client id = false) ∨
      ∃ front found rest, tasks = front ++ found :: rest ∧
        (∀ task ∈ front, task.isFor client id = false) ∧ found.isFor client id = true ∧
        cancelFirst client id tasks exchange =
          some ((found.cancel exchange).1, front ++ (found.cancel exchange).2.1 :: rest,
            (found.cancel exchange).2.2) := by
  induction tasks with
  | nil => exact .inl ⟨rfl, by simp⟩
  | cons first tasks ih =>
      by_cases named : first.isFor client id = true
      · exact .inr ⟨[], first, tasks, rfl, by simp, named, by simp [cancelFirst, named]⟩
      · rcases ih with ⟨absent, missing⟩ | ⟨front, found, rest, split, early, hit, cut⟩
        · exact .inl ⟨by simp [cancelFirst, named, absent], by simpa [named] using missing⟩
        · exact .inr ⟨first :: front, found, rest, by rw [split]; rfl, by simpa [named] using early,
            hit, by simp [cancelFirst, named, cut]⟩

/-- Without an identifier cancelling fails and changes nothing; otherwise it prunes, and cancels its
target if there is one. -/
theorem cancel_cases (manager : TaskManager σ) (client : ClientId) (id : Rpc.Id)
    (exchange : Exchange σ) :
    (id.isEmpty = true ∧ manager.cancel client id exchange =
        (.error (.invalidParams "Cannot cancel a task without id" []), manager, exchange)) ∨
      (id.isEmpty = false ∧ manager.target? client id exchange = none ∧
        ∃ error, manager.cancel client id exchange = (.error error, manager.prune exchange)) ∨
      ∃ ran front found rest, (manager.prune exchange).1.tasks ran = front ++ found :: rest ∧
        manager.target? client id exchange = some found ∧
        manager.cancel client id exchange =
          ((found.cancel (manager.prune exchange).2).1,
            (manager.prune exchange).1.withTasks ran
              (front ++ (found.cancel (manager.prune exchange).2).2.1 :: rest),
            reportCancel client id (found.cancel (manager.prune exchange).2).1
              (found.cancel (manager.prune exchange).2).2.2) ∧
        (∀ task ∈ front, task.isFor client id = false) ∧
        (ran = true → ∀ task ∈ manager.queue, task.isFor client id = false) := by
  have find {tasks : List (Task σ)} (missing : ∀ task ∈ tasks, task.isFor client id = false) :
      tasks.find? (·.isFor client id) = none := by simpa using missing
  have first {front rest : List (Task σ)} {found : Task σ} (hit : found.isFor client id = true)
      (early : ∀ task ∈ front, task.isFor client id = false) :
      (front ++ found :: rest).find? (·.isFor client id) = some found := by
    simp [List.find?_append, find early, hit]
  unfold TaskManager.cancel target?
  split_ifs with empty
  · exact .inl ⟨empty, rfl⟩
  · right
    have queue : (manager.prune exchange).1.queue = manager.queue := rfl
    generalize manager.prune exchange = pruned at queue
    obtain ⟨kept, asked⟩ := pruned
    dsimp only at queue ⊢
    rw [← queue]
    rcases cancelFirst_cases client id kept.queue asked with
      ⟨absent, missing⟩ | ⟨front, found, rest, split, early, hit, cut⟩
    · rw [absent]
      dsimp only
      rcases cancelFirst_cases client id kept.pending asked with
        ⟨absent, gone⟩ | ⟨front, found, rest, split, early, hit, cut⟩
      · rw [absent]
        refine .inl ⟨by simpa using empty, ?_, _, rfl⟩
        rw [List.find?_append, find missing, find gone]
        rfl
      · rw [cut]
        refine .inr ⟨true, front, found, rest, split, ?_, rfl, early, fun _ => missing⟩
        rw [List.find?_append, find missing, split, first hit early]
        rfl
    · rw [cut]
      refine .inr ⟨false, front, found, rest, split, ?_, rfl, early, nofun⟩
      rw [List.find?_append, split, first hit early]
      rfl

/-- A cancellation calls no other hooks than those of cancellations. -/
theorem leads_cancel (manager : TaskManager σ) (client : ClientId) (id : Rpc.Id)
    (exchange : Exchange σ) :
    Leads anyKey cancelling exchange (manager.cancel client id exchange).2.2 := by
  have pruned : Leads anyKey cancelling exchange (manager.prune exchange).2 :=
    keepPending_leads manager.pending exchange
  rcases manager.cancel_cases client id exchange with
    ⟨_, same⟩ | ⟨_, _, error, same⟩ | ⟨ran, front, found, rest, _, _, same, _⟩
  · rw [same]
    exact .refl exchange
  · rw [same]
    exact pruned
  · rw [same]
    exact (pruned.trans (found.leads_cancel _)).trans (reportCancel_leads client id _ _)

/-- Only a task with an identifier can be cancelled. -/
theorem cancel_named {manager : TaskManager σ} {client : ClientId} {id : Rpc.Id}
    {exchange : Exchange σ} (succeeds : (manager.cancel client id exchange).1 = .ok ()) :
    id.isEmpty = false := by
  cases empty : id.isEmpty with
  | false => rfl
  | true => simp [TaskManager.cancel, empty] at succeeds

/-- What can happen to a task when one is cancelled. -/
abbrev Withdraws (change : Change) : Prop :=
  change = .finish ∨ change = .cancel

/-- Cancelling prunes, and cancels one task at most. -/
theorem evolves_cancel (manager : TaskManager σ) (client : ClientId) (id : Rpc.Id)
    (exchange : Exchange σ) :
    Evolves task Withdraws (manager, exchange) (manager.cancel client id exchange).2 := by
  have pruned : Evolves task Withdraws (manager, exchange) (manager.prune exchange) :=
    (evolves_prune manager exchange).widen fun _ => .inl
  rcases manager.cancel_cases client id exchange with
    ⟨_, same⟩ | ⟨_, _, error, same⟩ | ⟨ran, front, found, rest, split, _, same, _⟩
  · rw [same]
    exact .refl _
  · rw [same]
    exact pruned
  · have cancelled := (evolves_replace (manager.prune exchange).1 ran front rest
      (found.cancel_turns task (manager.prune exchange).2)).widen fun _ =>
        show _ → Withdraws _ from .inr
    rw [← split, withTasks_tasks] at cancelled
    rw [same]
    exact (pruned.trans cancelled).trans (.quiet _ (reportCancel_leads client id _ _))

/-- Where cancelling calls a hook for the task, the task was pending when the operation began, and
its cancel hook is called as soon as the pending tasks have been asked. -/
theorem cancel_called {stage : Stage} {manager : TaskManager σ} {client : ClientId} {id : Rpc.Id}
    {exchange : Exchange σ} (stands : Stands task stage manager)
    (called : (manager.cancel client id exchange).2.2.callsFor task.key ≠
      exchange.callsFor task.key) :
    ∃ disconnected, stage = .held true false disconnected ∧
      task.request.client = client ∧ task.request.id = id ∧
      (task.flagged true false disconnected).isPending exchange = true ∧
      (manager.cancel client id exchange).2.2 = reportCancel client id (.ok ())
        ((manager.prune exchange).2.callCancel task.entrypoint task.key) := by
  have quiet : Leads anyKey noHook exchange (manager.prune exchange).2 :=
    keepPending_leads manager.pending exchange
  rcases manager.cancel_cases client id exchange with
    ⟨_, same⟩ | ⟨_, _, error, same⟩ | ⟨ran, front, found, rest, split, target, same, _⟩
  · rw [same] at called
    exact absurd rfl called
  · rw [same] at called
    exact absurd quiet.callsFor_quiet called
  · have reported : Leads anyKey noHook (found.cancel (manager.prune exchange).2).2.2
        (manager.cancel client id exchange).2.2 := by
      rw [same]
      exact reportCancel_leads client id _ _
    rw [reported.callsFor_quiet, ← quiet.callsFor_quiet] at called
    obtain ⟨held, rfl, key, running, unmarked, succeeds, stopped⟩ := Task.cancel_calls task called
    have member : .request held ∈ (manager.prune exchange).1.tasks ran := by simp [split]
    obtain ⟨owner, named⟩ := target?_named target
    obtain ⟨cancelled, disconnected, rfl, rfl⟩ := stands.of_mem (mem_of_prune member) key
    obtain rfl : ran = true := running
    obtain rfl : cancelled = false := unmarked
    obtain ⟨asked, leads, still⟩ := (keepPending_sublist manager.pending exchange).2 _ member
    have pends := RequestTask.isPending_of_leads _ leads still
    rw [same, succeeds, stopped]
    exact ⟨disconnected, rfl, owner, named, pends, rfl⟩

/-- A task whose cancellation succeeds is marked. -/
theorem cancel_marks {stage : Stage} {manager : TaskManager σ} {client : ClientId} {id : Rpc.Id}
    {exchange : Exchange σ} {held : RequestTask σ}
    (stands : Stands task stage (manager.cancel client id exchange).2.1)
    (succeeds : (manager.cancel client id exchange).1 = .ok ())
    (target : manager.target? client id exchange = some (.request held))
    (key : held.key = task.key) :
    ∃ running disconnected, stage = .held running true disconnected := by
  rcases manager.cancel_cases client id exchange with
    ⟨_, same⟩ | ⟨_, _, error, same⟩ | ⟨ran, front, found, rest, split, first, same, _⟩
  · rw [same] at succeeds
    cases succeeds
  · rw [same] at succeeds
    cases succeeds
  · obtain rfl : found = .request held := Option.some.inj (first.symm.trans target)
    rw [same] at succeeds stands
    rcases held.cancel_cases (manager.prune exchange).2 with ⟨error, refused⟩ | ⟨_, marked⟩
    · simp [Task.cancel, refused] at succeeds
    · have member : .request { held with cancelled := true } ∈
          ((manager.prune exchange).1.withTasks ran
            (front ++ (Task.cancel (.request held) (manager.prune exchange).2).2.1 :: rest)).tasks
              ran := by
        simp [Task.cancel, marked]
      obtain ⟨cancelled, disconnected, rfl, form⟩ := stands.of_mem member key
      have flag : true = cancelled := congrArg RequestTask.cancelled form
      exact ⟨ran, disconnected, by rw [← flag]⟩

/-- A queued task whose client leaves is marked. -/
theorem disconnect_marks {stage : Stage} {manager : TaskManager σ} {exchange : Exchange σ}
    {held : RequestTask σ}
    (stands : Stands task stage (manager.disconnect held.request.client exchange).1)
    (queued : .request held ∈ manager.queue) (key : held.key = task.key) :
    ∃ cancelled, stage = .held false cancelled true := by
  have each {tasks : List (Task σ)} (exchange : Exchange σ) (member : .request held ∈ tasks) :
      .request { held with disconnected := true } ∈
        (disconnectEach held.request.client tasks exchange).1 := by
    induction tasks generalizing exchange with
    | nil => cases member
    | cons first tasks ih =>
        rcases List.mem_cons.mp member with rfl | member
        · simp [disconnectEach, Task.client, Task.disconnect, RequestTask.disconnect_fst]
        · exact List.mem_cons_of_mem _ (ih _ member)
  have marked : .request { held with disconnected := true } ∈
      (manager.disconnect held.request.client exchange).1.tasks false := each exchange queued
  obtain ⟨cancelled, disconnected, rfl, form⟩ := stands.of_mem marked key
  have flag : true = disconnected := congrArg RequestTask.disconnected form
  exact ⟨cancelled, by rw [← flag]⟩

/-! ### Adding -/

/-- Adding another task is nothing to the task. -/
theorem evolves_add_other (manager : TaskManager σ) {other : Task σ} (exchange : Exchange σ)
    (form : other.form? task.key = none) :
    Evolves task allowed (manager, exchange) (manager.add other exchange) := by
  unfold TaskManager.add
  split_ifs
  · have logged : Evolves task allowed (manager, exchange)
        (manager, exchange.log (.runningPriority other.client other.method)) :=
      .quiet _ ((Leads.refl _).log _)
    exact logged.trans (evolves_other manager.queue manager.pending _ form)
  · have logged : Leads anyKey noHook exchange
        (exchange.log (.queued other.client other.method (manager.queue.length + 1))) :=
      (Leads.refl _).log _
    apply Evolves.still _ logged.callsFor_quiet
    intro list
    cases list with
    | false =>
        change Task.forms task.key (manager.queue ++ [other]) = _
        rw [Task.forms_append, Task.forms_cons_none form]
        exact List.append_nil _
    | true => rfl

/-- A new task enters the queue and waits there, or it has priority and starts at once. -/
theorem evolves_add_own (manager : TaskManager σ) (exchange : Exchange σ)
    (stands : Stands task .new manager) :
    let added := manager.add (.request (task.flagged false false false)) exchange
    ∃ hooks next, Path task.key Drains (.held false false false) hooks next ∧
      Stands task next added.1 ∧ added.2.callsFor task.key = exchange.callsFor task.key ++ hooks ∧
      (task.entrypoint.hasPriority = false → next = .held false false false) := by
  intro added
  obtain ⟨queue, pending⟩ := stands_iff.mp stands
  by_cases priority : task.entrypoint.hasPriority = true
  · let reported := exchange.log (.runningPriority task.request.client task.request.method)
    have logged : Leads anyKey noHook exchange reported := (Leads.refl _).log _
    obtain ⟨hooks, next, path, there, calls⟩ :=
      evolves_fresh manager.queue manager.pending reported queue pending
    have ran : added = _ := if_pos priority
    refine ⟨hooks, next, path, ?_, ?_, fun waits => ?_⟩
    · rw [ran]
      exact there
    · rw [ran, ← logged.callsFor_quiet]
      exact calls
    · rw [priority] at waits
      cases waits
  · let reported := exchange.log
      (.queued task.request.client task.request.method (manager.queue.length + 1))
    have logged : Leads anyKey noHook exchange reported := (Leads.refl _).log _
    have waits : added = _ := if_neg priority
    refine ⟨[], _, .refl, ?_, ?_, fun _ => rfl⟩
    · rw [stands_iff, waits]
      refine ⟨?_, pending⟩
      rw [Task.forms_append, queue, Task.forms_cons_some (Task.own_form task false false false)]
      rfl
    · rw [waits, List.append_nil]
      exact logged.callsFor_quiet

end TaskManager

end RpcDispatch
