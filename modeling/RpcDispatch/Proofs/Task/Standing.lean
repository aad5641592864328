import RpcDispatch.Proofs.Task.Life
import RpcDispatch.Proofs.Task.Tracking

/-
This file relates the stage of a request task to the manager that holds it, with any tasks beside
it.  Running, cancelling or disconnecting a single task is a path in the life of the request task,
or it is another task and nothing happens to this one.
-/

namespace RpcDispatch

open Exchange (Leads)
open Stage (Path)

variable {σ : Type}

/-! ### The forms of a task -/

/-- The request task with the given key, if the task is one. -/
def Task.form? (key : Key) : Task σ → Option (RequestTask σ)
  | .request task => if task.key = key then some task else none
  | .chunk _ => none
  | .external _ => none

/-- A task is a form of the request when it is a request task with its key. -/
theorem Task.form?_eq_some {key : Key} {task : Task σ} {form : RequestTask σ} :
    task.form? key = some form ↔ task = .request form ∧ form.key = key := by
  cases task with
  | request task =>
      simp only [form?, Option.ite_none_right_eq_some, Option.some.injEq, Task.request.injEq]
      constructor
      · rintro ⟨same, rfl⟩
        exact ⟨rfl, same⟩
      · rintro ⟨rfl, same⟩
        exact ⟨same, rfl⟩
  | chunk task => simp [form?]
  | external task => simp [form?]

/-- The forms of a request task in a list. -/
def Task.forms (key : Key) (tasks : List (Task σ)) : List (RequestTask σ) :=
  tasks.filterMap (form? key)

@[simp] theorem Task.forms_append (key : Key) (first second : List (Task σ)) :
    forms key (first ++ second) = forms key first ++ forms key second :=
  List.filterMap_append

theorem Task.forms_cons_some {key : Key} {task : Task σ} {form : RequestTask σ}
    (found : task.form? key = some form) (tasks : List (Task σ)) :
    forms key (task :: tasks) = form :: forms key tasks :=
  List.filterMap_cons_some found

theorem Task.forms_cons_none {key : Key} {task : Task σ} (other : task.form? key = none)
    (tasks : List (Task σ)) : forms key (task :: tasks) = forms key tasks :=
  List.filterMap_cons_none other

/-- The forms of a request in a list are the request tasks there with its key. -/
theorem Task.mem_forms {key : Key} {tasks : List (Task σ)} {form : RequestTask σ} :
    form ∈ forms key tasks ↔ .request form ∈ tasks ∧ form.key = key := by
  simp only [forms, List.mem_filterMap, form?_eq_some]
  constructor
  · rintro ⟨_, member, rfl, same⟩
    exact ⟨member, same⟩
  · rintro ⟨member, same⟩
    exact ⟨_, member, rfl, same⟩

/-- The task with the given flags. -/
def RequestTask.flagged (task : RequestTask σ) (running cancelled disconnected : Bool) :
    RequestTask σ :=
  { task with running, cancelled, disconnected }

/-- The forms of a task among the tasks that have run, or among those that have not. -/
def Stage.forms (task : RequestTask σ) (ran : Bool) : Stage → List (RequestTask σ)
  | .held running cancelled disconnected =>
    if running = ran then [task.flagged running cancelled disconnected] else []
  | .new => []
  | .gone => []

/-- A task has one form at most, which tells its stage. -/
theorem Stage.forms_eq_cons {task form : RequestTask σ} {ran : Bool} {stage : Stage}
    {front rest : List (RequestTask σ)} (held : stage.forms task ran = front ++ form :: rest) :
    front = [] ∧ rest = [] ∧ ∃ cancelled disconnected,
      stage = .held ran cancelled disconnected ∧ form = task.flagged ran cancelled disconnected := by
  cases stage with
  | new => simp [forms] at held
  | gone => simp [forms] at held
  | held running cancelled disconnected =>
      simp only [forms] at held
      split_ifs at held with same
      · subst same
        cases front with
        | nil =>
            cases held
            exact ⟨rfl, rfl, cancelled, disconnected, rfl, rfl⟩
        | cons first front => simp at held
      · simp at held

namespace TaskManager

/-- The tasks that have run and are pending, or those that wait in the queue. -/
def tasks (manager : TaskManager σ) : Bool → List (Task σ)
  | true => manager.pending
  | false => manager.queue

/-- The manager with other tasks in one of its lists. -/
def withTasks (manager : TaskManager σ) (ran : Bool) (tasks : List (Task σ)) : TaskManager σ :=
  match ran with
  | true => { manager with pending := tasks }
  | false => { manager with queue := tasks }

@[simp] theorem tasks_withTasks (manager : TaskManager σ) (ran other : Bool)
    (tasks : List (Task σ)) :
    (manager.withTasks ran tasks).tasks other = if other = ran then tasks else manager.tasks other := by
  cases ran <;> cases other <;> rfl

/-- Putting the tasks of a list back changes nothing. -/
theorem withTasks_tasks (manager : TaskManager σ) (ran : Bool) :
    manager.withTasks ran (manager.tasks ran) = manager := by
  cases ran <;> rfl

end TaskManager

/-- The forms of the task in a manager are those of the stage. -/
def Stands (task : RequestTask σ) (stage : Stage) (manager : TaskManager σ) : Prop :=
  ∀ ran, Task.forms task.key (manager.tasks ran) = stage.forms task ran

/-- A task stands at a stage when both lists hold its forms of that stage. -/
theorem stands_iff {task : RequestTask σ} {stage : Stage} {manager : TaskManager σ} :
    Stands task stage manager ↔
      Task.forms task.key manager.queue = stage.forms task false ∧
        Task.forms task.key manager.pending = stage.forms task true :=
  Bool.forall_bool

/-- A form that is found in a manager tells the stage. -/
theorem Stands.of_mem {task form : RequestTask σ} {stage : Stage} {manager : TaskManager σ}
    {ran : Bool} (stands : Stands task stage manager) (member : .request form ∈ manager.tasks ran)
    (key : form.key = task.key) : ∃ cancelled disconnected,
      stage = .held ran cancelled disconnected ∧ form = task.flagged ran cancelled disconnected := by
  have listed := Task.mem_forms.mpr ⟨member, key⟩
  rw [stands ran] at listed
  obtain ⟨front, rest, split⟩ := List.append_of_mem listed
  exact (Stage.forms_eq_cons split).2.2

/-! ### Calls for one request -/

/-- The request that a hook is called for. -/
def Hook.key? : Hook → Option Key
  | .request key => some key
  | .cancel key => some key
  | .disconnect key => some key
  | .update => none

/-- All calls of hooks for a request, in order. -/
def Exchange.callsFor (exchange : Exchange σ) (key : Key) : List Hook :=
  exchange.calls.filter (·.key? = some key)

/-- The calls for a request count its own hooks as all calls do. -/
theorem Exchange.count_callsFor (exchange : Exchange σ) {key : Key} {hook : Hook}
    (own : hook.key? = some key) :
    (exchange.callsFor key).count hook = exchange.calls.count hook :=
  List.count_filter (by simpa using own)

/-- The calls for a request have its own hooks as all calls do. -/
theorem Exchange.mem_callsFor (exchange : Exchange σ) {key : Key} {hook : Hook}
    (own : hook.key? = some key) : hook ∈ exchange.callsFor key ↔ hook ∈ exchange.calls := by
  simp [callsFor, own]

/-- A stretch that calls no hook for a request leaves its calls. -/
theorem Exchange.Leads.callsFor {hooks : Hook → Prop} {before after : Exchange σ} {key : Key}
    (leads : Leads anyKey hooks before after) (other : ∀ hook, hooks hook → hook.key? ≠ some key) :
    after.callsFor key = before.callsFor key := by
  have moves := leads before.othersCloseOnly_anyKey
  clear leads
  induction moves with
  | refl => rfl
  | tail _ move ih =>
      rw [← ih, Exchange.callsFor, Exchange.callsFor]
      rcases move.calls with same | ⟨hook, allowed, same⟩
      · rw [same]
      · rw [same, List.filter_append]
        simp [other hook allowed]

/-- A stretch without calls leaves all of them. -/
theorem Exchange.Leads.callsFor_quiet {before after : Exchange σ} {key : Key}
    (leads : Leads anyKey noHook before after) : after.callsFor key = before.callsFor key :=
  leads.callsFor fun _ called => called.elim

/-- One call is added to those for its request. -/
theorem Exchange.callsFor_called (exchange : Exchange σ) (method : String) {hook : Hook} {key : Key}
    (own : hook.key? = some key) :
    (exchange.record (.called method hook)).callsFor key = exchange.callsFor key ++ [hook] := by
  simp [Exchange.callsFor, own]

/-- A task that is not spent calls its request hook when it runs, and no other hook. -/
theorem RequestTask.run_calls (task : RequestTask σ) (exchange : Exchange σ)
    (fresh : ¬ task.IsSpent) :
    (task.run exchange).2.callsFor task.key = exchange.callsFor task.key ++ [.request task.key] := by
  let reported := exchange.log
    (.taskRunning task.request.client task.request.id task.request.method)
  have later : Leads anyKey noHook
      (reported.record (.called task.entrypoint.method (.request task.key)))
      (task.invoke reported) := task.invoke_leads reported task.entrypoint.closesOnly_anyKey
  have logged : Leads anyKey noHook exchange reported := (Leads.refl exchange).log _
  rw [task.run_eq_invoke exchange fresh, later.callsFor_quiet, Exchange.callsFor_called _ _ rfl,
    logged.callsFor_quiet]

/-! ### What an operation does to a task -/

/-- From one state of a manager to another, the task takes a path of allowed changes. -/
def Evolves (task : RequestTask σ) (allowed : Change → Prop)
    (before after : TaskManager σ × Exchange σ) : Prop :=
  ∀ stage, Stands task stage before.1 → ∃ hooks next,
    Path task.key allowed stage hooks next ∧ Stands task next after.1 ∧
      after.2.callsFor task.key = before.2.callsFor task.key ++ hooks

namespace Evolves

variable {task : RequestTask σ} {allowed wider : Change → Prop}
  {before middle after : TaskManager σ × Exchange σ}

/-- A task that takes two paths takes one after the other. -/
theorem trans (first : Evolves task allowed before middle)
    (second : Evolves task allowed middle after) : Evolves task allowed before after := by
  intro stage stands
  obtain ⟨hooks, next, path, there, calls⟩ := first stage stands
  obtain ⟨more, last, later, final, recalled⟩ := second next there
  exact ⟨hooks ++ more, last, path.trans later, final, by rw [recalled, calls, List.append_assoc]⟩

/-- More changes may be allowed than a task takes. -/
theorem widen (widens : ∀ change, allowed change → wider change)
    (evolves : Evolves task allowed before after) : Evolves task wider before after := by
  intro stage stands
  obtain ⟨hooks, next, path, there, calls⟩ := evolves stage stands
  exact ⟨hooks, next, path.widen widens, there, calls⟩

/-- Where the forms and the calls stay the same, nothing happens to the task. -/
theorem still (forms : ∀ ran, Task.forms task.key (after.1.tasks ran) =
      Task.forms task.key (before.1.tasks ran))
    (calls : after.2.callsFor task.key = before.2.callsFor task.key) :
    Evolves task allowed before after :=
  fun stage stands =>
    ⟨[], stage, .refl, fun ran => (forms ran).trans (stands ran), by rw [calls, List.append_nil]⟩

theorem refl (state : TaskManager σ × Exchange σ) : Evolves task allowed state state :=
  .still (fun _ => rfl) rfl

/-- A stretch without calls is nothing to the task. -/
theorem quiet (manager : TaskManager σ) {exchange later : Exchange σ}
    (leads : Leads anyKey noHook exchange later) :
    Evolves task allowed (manager, exchange) (manager, later) :=
  .still (fun _ => rfl) leads.callsFor_quiet

end Evolves

/-! ### One task among others -/

/-- An operation on one task of a list, as regards the request task that is followed: another task
stays another one and calls no hook for it, a form of it takes a path. -/
structure Turns (task : RequestTask σ) (allowed : Change → Prop) (old : Task σ)
    (before : Exchange σ) (new : Task σ) (after : Exchange σ) : Prop where
  other : old.form? task.key = none →
    new.form? task.key = none ∧ after.callsFor task.key = before.callsFor task.key
  own : ∀ running cancelled disconnected,
    old = .request (task.flagged running cancelled disconnected) → ∃ hooks now left,
      Path task.key allowed (.held running cancelled disconnected) hooks (.held running now left) ∧
        new = .request (task.flagged running now left) ∧
        after.callsFor task.key = before.callsFor task.key ++ hooks

/-- More changes may be allowed, if they are for the task that is followed. -/
theorem Turns.widen {task : RequestTask σ} {allowed wider : Change → Prop} {old new : Task σ}
    {before after : Exchange σ}
    (widens : (∃ running cancelled disconnected,
      old = .request (task.flagged running cancelled disconnected)) →
      ∀ change, allowed change → wider change)
    (turns : Turns task allowed old before new after) : Turns task wider old before new after := by
  refine ⟨turns.other, fun running cancelled disconnected same => ?_⟩
  obtain ⟨hooks, now, left, path, rest⟩ := turns.own running cancelled disconnected same
  exact ⟨hooks, now, left, path.widen (widens ⟨running, cancelled, disconnected, same⟩), rest⟩

namespace Task

variable (task : RequestTask σ)

/-- A request task with another key is none of the forms. -/
theorem form?_request_eq_none {key : Key} {held : RequestTask σ} :
    (Task.request held).form? key = none ↔ held.key ≠ key := by
  simp [form?]

theorem own_form (running cancelled disconnected : Bool) :
    (Task.request (task.flagged running cancelled disconnected)).form? task.key =
      some (task.flagged running cancelled disconnected) :=
  form?_eq_some.mpr ⟨rfl, rfl⟩

/-- What leaves a task and the record alone takes no path. -/
theorem form?_unchanged (old : Task σ) (exchange : Exchange σ) :
    Turns task (fun _ => False) old exchange old exchange :=
  ⟨fun other => ⟨other, rfl⟩, fun running cancelled disconnected same =>
    ⟨[], cancelled, disconnected, .refl, same, by rw [List.append_nil]⟩⟩

/-- Running another task calls no hook for the request task. -/
theorem run_other (old : Task σ) (exchange : Exchange σ) (other : old.form? task.key = none) :
    (old.run exchange).1.form? task.key = none ∧
      (old.run exchange).2.callsFor task.key = exchange.callsFor task.key := by
  cases old with
  | request held =>
      rw [form?_request_eq_none] at other
      have ran : Leads anyKey (· = .request held.key) exchange (held.run exchange).2 :=
        held.run_leads exchange held.entrypoint.closesOnly_anyKey
      have apart : (held.run exchange).1.key ≠ task.key := by
        rw [(held.run_same exchange).key]
        exact other
      refine ⟨form?_request_eq_none.mpr apart, ran.callsFor ?_⟩
      rintro hook rfl
      simpa [Hook.key?] using other
  | chunk held =>
      have ran : Leads anyKey noHook exchange (held.run exchange) :=
        held.run_leads exchange (Script.closesOnly_anyKey _)
      exact ⟨rfl, ran.callsFor_quiet⟩
  | external held =>
      have ran : Leads anyKey noHook exchange (held.run.run exchange).2 :=
        held.run.run_leads exchange (Script.closesOnly_anyKey _)
      exact ⟨rfl, ran.callsFor_quiet⟩

/-- Cancelling a task is a change for the request task if it is a form of it. -/
theorem cancel_turns (old : Task σ) (exchange : Exchange σ) :
    Turns task (· = .cancel) old exchange (old.cancel exchange).2.1 (old.cancel exchange).2.2 := by
  constructor
  · intro other
    cases old with
    | request held =>
        rw [form?_request_eq_none] at other
        have ran : Leads anyKey (· = .cancel held.key) exchange (held.cancel exchange).2.2 :=
          held.cancel_leads exchange held.entrypoint.closesOnly_anyKey
        have apart : (held.cancel exchange).2.1.key ≠ task.key := by
          rw [(held.cancel_alike exchange).key]
          exact other
        refine ⟨form?_request_eq_none.mpr apart, ran.callsFor ?_⟩
        rintro hook rfl
        simpa [Hook.key?] using other
    | chunk held => exact ⟨rfl, rfl⟩
    | external held =>
        have ran : Leads anyKey noHook exchange (held.cancel.run exchange).2 :=
          held.cancel.run_leads exchange (Script.closesOnly_anyKey _)
        exact ⟨rfl, ran.callsFor_quiet⟩
  · rintro running cancelled disconnected rfl
    let form := task.flagged running cancelled disconnected
    rcases form.cancel_cases exchange with ⟨error, same⟩ | ⟨unmarked, same⟩
    · refine ⟨[], cancelled, disconnected, .refl, ?_, ?_⟩
      · simp [Task.cancel, form, same]
      · simp [Task.cancel, form, same]
    · obtain rfl : cancelled = false := unmarked
      refine ⟨_, true, disconnected, (Stage.Step.cancel running disconnected).path rfl, ?_, ?_⟩
      · simp only [Task.cancel, form, same]
        rfl
      · simp only [Task.cancel, form, same]
        cases running with
        | false => exact (List.append_nil _).symm
        | true =>
            have ran : Leads anyKey noHook
                (exchange.record (.called task.entrypoint.method (.cancel task.key)))
                (exchange.callCancel task.entrypoint task.key) :=
              task.entrypoint.onCancel.run_leads _ (Script.closesOnly_anyKey _)
            exact ran.callsFor_quiet.trans (exchange.callsFor_called _ rfl)

/-- Where cancelling a task calls a hook for the request task, it is a form of it that runs and was
not cancelled before, and what is called is its cancel hook. -/
theorem cancel_calls {old : Task σ} {exchange : Exchange σ}
    (called : (old.cancel exchange).2.2.callsFor task.key ≠ exchange.callsFor task.key) :
    ∃ held, old = .request held ∧ held.key = task.key ∧ held.running = true ∧
      held.cancelled = false ∧ (old.cancel exchange).1 = .ok () ∧
      (old.cancel exchange).2.2 = exchange.callCancel held.entrypoint held.key := by
  cases form : old.form? task.key with
  | none => exact absurd ((old.cancel_turns task exchange).other form).2 called
  | some held =>
      obtain ⟨rfl, key⟩ := form?_eq_some.mp form
      rcases held.cancel_cases exchange with ⟨error, refused⟩ | ⟨unmarked, marked⟩
      · simp [Task.cancel, refused] at called
      · cases running : held.running with
        | false => simp [Task.cancel, marked, running] at called
        | true =>
            exact ⟨held, rfl, key, running, unmarked, by simp [Task.cancel, marked],
              by simp [Task.cancel, marked, running]⟩

/-- Disconnecting a task is a change for the request task if it is a form of it. -/
theorem disconnect_turns (old : Task σ) (exchange : Exchange σ) :
    Turns task (· = .leave) old exchange (old.disconnect exchange).1
      (old.disconnect exchange).2 := by
  constructor
  · intro other
    cases old with
    | request held =>
        rw [form?_request_eq_none] at other
        have left : Leads anyKey
            (fun hook => held.disconnected = false ∧ hook = .disconnect held.key) exchange
            (held.disconnect exchange).2 :=
          held.disconnect_leads exchange held.entrypoint.closesOnly_anyKey trivial
        have apart : (held.disconnect exchange).1.key ≠ task.key := by
          rw [held.disconnect_fst exchange]
          exact other
        refine ⟨form?_request_eq_none.mpr apart, left.callsFor ?_⟩
        rintro hook ⟨_, rfl⟩
        simpa [Hook.key?] using other
    | chunk held => exact ⟨rfl, rfl⟩
    | external held =>
        have left : Leads anyKey noHook exchange (held.disconnect.run exchange).2 :=
          held.disconnect.run_leads exchange (Script.closesOnly_anyKey _)
        exact ⟨rfl, left.callsFor_quiet⟩
  · rintro running cancelled disconnected rfl
    cases disconnected with
    | true =>
        have gone : (task.flagged running cancelled true).disconnect exchange =
            (task.flagged running cancelled true, exchange) := by
          simp [RequestTask.disconnect, RequestTask.flagged]
        exact ⟨[], cancelled, true, .refl, by simp [Task.disconnect, gone],
          by simp [Task.disconnect, gone]⟩
    | false =>
        refine ⟨_, cancelled, true, (Stage.Step.leave running cancelled).path rfl, ?_, ?_⟩
        · simp [Task.disconnect, RequestTask.disconnect_fst, RequestTask.flagged]
        · have closed : Leads anyKey noHook exchange (exchange.pause.perform (.close task.key)) :=
            (Leads.refl exchange).pause.perform _ fun _ _ => trivial
          have rest := (task.flagged running cancelled false).disconnect_called exchange rfl
          rw [← closed.callsFor_quiet]
          exact rest.callsFor_quiet.trans (Exchange.callsFor_called _ _ rfl)

/-- The same for a task that is disconnected if it belongs to the client. -/
theorem disconnect_own_turns (old : Task σ) (client : ClientId) (exchange : Exchange σ) :
    let left := if old.client = client then old.disconnect exchange else (old, exchange)
    Turns task (fun change => change = .leave ∧ task.request.client = client) old exchange left.1
      left.2 := by
  intro left
  by_cases own : old.client = client
  · have same : left = old.disconnect exchange := if_pos own
    rw [same]
    apply (old.disconnect_turns task exchange).widen
    rintro ⟨running, cancelled, disconnected, rfl⟩ change leaves
    exact ⟨leaves, own⟩
  · have same : left = (old, exchange) := if_neg own
    rw [same]
    exact (old.form?_unchanged task exchange).widen fun _ _ never => never.elim

end Task

end RpcDispatch
