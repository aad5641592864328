import RpcDispatch.Proofs.Exchange.Sparing
import RpcDispatch.Proofs.Task.Evolution

/-
This file follows a request task through the whole history of a manager.  A history is a list of
operations, between which requests come and other threads act.
-/

namespace RpcDispatch

open Exchange (Leads Grows)
open Stage (Path)

variable {σ : Type}

/-- What is done to a manager, or beside it to the exchange. -/
inductive Operation (σ : Type) where
  /-- A request comes. -/
  | enroll (request : Request)
  /-- Another thread acts, for example to give an answer later. -/
  | act (act : Act σ)
  | add (task : Task σ)
  | runAll
  | cancel (client : ClientId) (id : Rpc.Id)
  | disconnect (client : ClientId)

/-- A manager and the exchange at one time, with all request tasks that were added until then. -/
structure Moment (σ : Type) where
  added : List (RequestTask σ)
  manager : TaskManager σ
  exchange : Exchange σ

namespace Moment

/-- The other threads may have any turns to come. -/
def start (state : σ) (senders : ClientId → Nat → Option SendFault)
    (others : List (List (Act σ))) : Moment σ :=
  ⟨[], .empty, { Exchange.start state senders with others }⟩

def state (moment : Moment σ) : TaskManager σ × Exchange σ :=
  (moment.manager, moment.exchange)

/-- The state of the manager and the exchange after an operation. -/
def operate (moment : Moment σ) : Operation σ → TaskManager σ × Exchange σ
  | .enroll request => (moment.manager, (moment.exchange.enroll request).2)
  | .act act => (moment.manager, moment.exchange.perform act)
  | .add task => moment.manager.add task moment.exchange
  | .runAll => moment.manager.runAll moment.exchange
  | .cancel client id => (moment.manager.cancel client id moment.exchange).2
  | .disconnect client => moment.manager.disconnect client moment.exchange

end Moment

/-- The request task that an operation adds, if it adds one. -/
def Operation.added? : Operation σ → Option (RequestTask σ)
  | .add task => task.request?
  | _ => none

/-- Only the addition of a request task adds it. -/
theorem Operation.added?_eq_some {operation : Operation σ} {task : RequestTask σ} :
    operation.added? = some task ↔ operation = .add (.request task) := by
  cases operation with
  | add added => cases added <;> simp [added?, Task.request?]
  | _ => simp [added?]

namespace Moment

def step (moment : Moment σ) (operation : Operation σ) : Moment σ :=
  ⟨moment.added ++ operation.added?.toList, (moment.operate operation).1,
    (moment.operate operation).2⟩

/-- The moment after some operations. -/
def after (moment : Moment σ) (operations : List (Operation σ)) : Moment σ :=
  operations.foldl step moment

/-- A request task is new when it is added, and it is for a request that has come and has no task
yet. -/
def Admits (moment : Moment σ) (operation : Operation σ) : Prop :=
  ∀ task, operation.added? = some task →
    task = .create task.key task.request task.entrypoint ∧
      moment.exchange.requests[task.key]? = some task.request ∧
      ∀ other ∈ moment.added, other.key ≠ task.key

/-- Whatever adds no request task is admitted. -/
theorem Admits.of_none {moment : Moment σ} {operation : Operation σ}
    (none : operation.added? = none) : moment.Admits operation := by
  intro task added
  rw [none] at added
  cases added

/-- All operations of a history are admitted in their turn. -/
def AdmitsAll (moment : Moment σ) : List (Operation σ) → Prop
  | [] => True
  | operation :: operations =>
    moment.Admits operation ∧ (moment.step operation).AdmitsAll operations

/-- Operations take effect one after another. -/
theorem after_append (moment : Moment σ) (early late : List (Operation σ)) :
    moment.after (early ++ late) = (moment.after early).after late :=
  List.foldl_append

/-- A history that is admitted is admitted in its parts. -/
theorem AdmitsAll.split {moment : Moment σ} {early late : List (Operation σ)}
    (admits : moment.AdmitsAll (early ++ late)) :
    moment.AdmitsAll early ∧ (moment.after early).AdmitsAll late := by
  induction early generalizing moment with
  | nil => exact ⟨trivial, admits⟩
  | cons operation early ih =>
      obtain ⟨first, rest⟩ := ih admits.2
      exact ⟨⟨admits.1, first⟩, rest⟩

end Moment

/-! ### What an operation does to a task -/

/-- What an operation can do to a task that it does not add. -/
def Operation.Changes (task : RequestTask σ) : Operation σ → Change → Prop
  | .runAll => TaskManager.Drains
  | .cancel _ _ => TaskManager.Withdraws
  | .disconnect client => TaskManager.Departs task client
  | .enroll _ => fun _ => False
  | .act _ => fun _ => False
  | .add _ => fun _ => False

/-- No operation but adding enters a task. -/
theorem Operation.not_enter (operation : Operation σ) (task : RequestTask σ) :
    ¬ operation.Changes task .enter := by
  cases operation <;> simp [Changes]

namespace Moment

variable {task : RequestTask σ} {moment : Moment σ}

/-- An operation that does not add the task again takes it along a path of the changes of the
operation. -/
theorem step_evolves (moment : Moment σ) (operation : Operation σ)
    (other : ∀ added, operation.added? = some added → added.key ≠ task.key) :
    Evolves task (operation.Changes task) moment.state (moment.step operation).state := by
  cases operation with
  | enroll request => exact .still (fun _ => rfl) rfl
  | act act => exact .quiet _ ((Leads.refl _).perform act fun _ _ => trivial)
  | add added =>
      apply TaskManager.evolves_add_other
      cases added with
      | request added => exact Task.form?_request_eq_none.mpr (other added rfl)
      | chunk _ => rfl
      | external _ => rfl
  | runAll => exact moment.manager.evolves_runAll moment.exchange
  | cancel client id => exact moment.manager.evolves_cancel client id moment.exchange
  | disconnect client => exact moment.manager.evolves_disconnect client moment.exchange

/-- A task stays new until it is added, and no hook is called for it. -/
theorem step_new (stands : Stands task .new moment.manager) (operation : Operation σ)
    (other : ∀ added, operation.added? = some added → added.key ≠ task.key) :
    Stands task .new (moment.step operation).manager ∧
      (moment.step operation).exchange.callsFor task.key = moment.exchange.callsFor task.key := by
  obtain ⟨hooks, next, path, there, calls⟩ := moment.step_evolves operation other .new stands
  obtain ⟨rfl, rfl⟩ := path.of_new (operation.not_enter task)
  exact ⟨there, calls.trans (List.append_nil _)⟩

/-- No operation adds a task again. -/
theorem Admits.apart {operation : Operation σ} (admits : moment.Admits operation)
    (known : task ∈ moment.added) (added : RequestTask σ) (new : operation.added? = some added) :
    added.key ≠ task.key :=
  fun same => (admits added new).2.2 task known same.symm

/-- Whatever is done, the exchange grows. -/
theorem step_grows (moment : Moment σ) (operation : Operation σ) :
    Grows anyKey moment.exchange (moment.step operation).exchange := by
  cases operation with
  | enroll request => exact moment.exchange.enroll_grows request
  | act act =>
      have acted : Leads anyKey anyHook moment.exchange (moment.exchange.perform act) :=
        (Leads.refl _).perform act fun _ _ => trivial
      exact acted.grows
  | add added => exact (moment.manager.leads_add added moment.exchange).grows
  | runAll => exact (moment.manager.leads_runAll moment.exchange).grows
  | cancel client id => exact (moment.manager.leads_cancel client id moment.exchange).grows
  | disconnect client => exact (moment.manager.leads_disconnect client moment.exchange).grows

/-- The exchange grows by any operations. -/
theorem after_grows (moment : Moment σ) (operations : List (Operation σ)) :
    Grows anyKey moment.exchange (moment.after operations).exchange := by
  induction operations generalizing moment with
  | nil => exact .refl _
  | cons operation operations ih => exact (moment.step_grows operation).trans (ih _)

/-- Only cancelling calls cancel hooks. -/
theorem step_count_cancel (moment : Moment σ) (operation : Operation σ) (key : Key)
    (other : ∀ client id, operation ≠ .cancel client id) :
    (moment.step operation).exchange.calls.count (.cancel key) =
      moment.exchange.calls.count (.cancel key) := by
  have within := moment.exchange.othersCloseOnly_anyKey
  have barred : ¬ uncancelling (.cancel key) := fun never => never key rfl
  cases operation with
  | enroll request => rfl
  | act act =>
      change (moment.exchange.perform act).calls.count _ = _
      rw [Exchange.perform_calls]
  | add added => exact (moment.manager.leads_add added _).count_calls within barred
  | runAll => exact (moment.manager.leads_runAll _).count_calls within barred
  | cancel client id => exact absurd rfl (other client id)
  | disconnect client => exact (moment.manager.leads_disconnect client _).count_calls within barred

/-! ### The lives of all tasks -/

/-- A task that was added has come to its stage by what was called for it, and nothing is known of
any other. -/
structure Orderly (moment : Moment σ) : Prop where
  distinct : (moment.added.map (·.key)).Nodup
  enrolled : ∀ task ∈ moment.added, moment.exchange.requests[task.key]? = some task.request
  unknown : ∀ task : RequestTask σ, (∀ other ∈ moment.added, other.key ≠ task.key) →
    Stands task .new moment.manager ∧ moment.exchange.callsFor task.key = []
  known : ∀ task ∈ moment.added, ∃ stage, stage ≠ .new ∧ Stands task stage moment.manager ∧
    Path task.key (fun _ => True) .new (moment.exchange.callsFor task.key) stage

/-- Nothing is known of any task at the start. -/
theorem orderly_start (state : σ) (senders : ClientId → Nat → Option SendFault)
    (others : List (List (Act σ))) : (start state senders others).Orderly where
  distinct := List.nodup_nil
  enrolled := by simp [start]
  unknown task _ := by
    refine ⟨?_, rfl⟩
    rintro (_ | _) <;> rfl
  known := by simp [start]

/-- The task that an operation adds begins its life. -/
theorem step_begins {operation : Operation σ} (added : operation.added? = some task)
    (admits : moment.Admits operation) (stands : Stands task .new moment.manager) :
    ∃ hooks next, Path task.key TaskManager.Drains (.held false false false) hooks next ∧
      Stands task next (moment.step operation).manager ∧
      (moment.step operation).exchange.callsFor task.key =
        moment.exchange.callsFor task.key ++ hooks ∧
      (task.entrypoint.hasPriority = false → next = .held false false false) := by
  obtain rfl : operation = .add (.request task) := operation.added?_eq_some.mp added
  have new : task.flagged false false false = task := by
    rw [(admits task added).1]
    rfl
  have begun := moment.manager.evolves_add_own moment.exchange stands
  rw [new] at begun
  exact begun

/-- An operation that is admitted keeps what is known of the tasks. -/
theorem Orderly.step (orderly : moment.Orderly) {operation : Operation σ}
    (admits : moment.Admits operation) : (moment.step operation).Orderly := by
  have within := moment.exchange.othersCloseOnly_anyKey
  have grows := moment.step_grows operation
  have listed {task : RequestTask σ} (member : task ∈ (moment.step operation).added) :
      task ∈ moment.added ∨ operation.added? = some task := by
    simpa [Moment.step, Option.mem_toList] using member
  constructor
  · simp only [Moment.step, List.map_append, List.nodup_append]
    refine ⟨orderly.distinct, by cases operation.added? <;> simp, ?_⟩
    intro old early new late same
    obtain ⟨other, present, rfl⟩ := List.mem_map.mp early
    obtain ⟨added, fresh, rfl⟩ := List.mem_map.mp late
    exact (admits added (Option.mem_toList.mp fresh)).2.2 other present same
  · intro task member
    apply grows.requests within
    rcases listed member with old | new
    · exact orderly.enrolled task old
    · exact (admits task new).2.1
  · intro task strange
    obtain ⟨stands, silent⟩ :=
      orderly.unknown task fun other member => strange other (by simp [Moment.step, member])
    obtain ⟨stands, calls⟩ := step_new stands operation
      fun added new => strange added (by simp [Moment.step, new])
    exact ⟨stands, calls.trans silent⟩
  · intro task member
    by_cases old : task ∈ moment.added
    · obtain ⟨stage, entered, stands, path⟩ := orderly.known task old
      obtain ⟨hooks, next, later, there, calls⟩ :=
        moment.step_evolves operation (admits.apart old) stage stands
      refine ⟨next, later.ne_new entered, there, ?_⟩
      have recalled : (moment.step operation).exchange.callsFor task.key = _ := calls
      rw [recalled]
      exact path.trans (later.widen fun _ _ => trivial)
    · have new := (listed member).resolve_left old
      obtain ⟨stands, silent⟩ := orderly.unknown task (admits task new).2.2
      obtain ⟨hooks, next, path, there, calls, _⟩ := step_begins new admits stands
      refine ⟨next, path.ne_new (by simp), there, ?_⟩
      have entered : Path task.key (fun _ => True) .new [] (.held false false false) :=
        Stage.Step.enter.path trivial
      rw [calls, silent]
      exact entered.trans (path.widen fun _ _ => trivial)

/-- No hook is called twice for a task. -/
theorem Orderly.count_le_one (orderly : moment.Orderly) (member : task ∈ moment.added) {hook : Hook}
    (own : hook.key? = some task.key) : moment.exchange.calls.count hook ≤ 1 := by
  obtain ⟨_, _, _, path⟩ := orderly.known task member
  rw [← moment.exchange.count_callsFor own]
  exact path.count_le_one hook

/-- Every history keeps the lives of its tasks in order. -/
theorem Orderly.after (orderly : moment.Orderly) {operations : List (Operation σ)}
    (admits : moment.AdmitsAll operations) : (moment.after operations).Orderly := by
  induction operations generalizing moment with
  | nil => exact orderly
  | cons operation operations ih => exact ih (orderly.step admits.1) admits.2

/-- A task that was added has been added after an operation. -/
theorem mem_step_added (moment : Moment σ) (operation : Operation σ) (known : task ∈ moment.added) :
    task ∈ (moment.step operation).added :=
  List.mem_append_left _ known

/-- A task that was added has been added after any operations. -/
theorem mem_after_added (moment : Moment σ) (operations : List (Operation σ))
    (known : task ∈ moment.added) : task ∈ (moment.after operations).added := by
  induction operations generalizing moment with
  | nil => exact known
  | cons operation operations ih => exact ih _ (moment.mem_step_added operation known)

/-- A task that was added goes on with its life, whatever is done. -/
theorem after_evolves {operations : List (Operation σ)} (admits : moment.AdmitsAll operations)
    (known : task ∈ moment.added) :
    Evolves task (fun _ => True) moment.state (moment.after operations).state := by
  induction operations generalizing moment with
  | nil => exact .refl _
  | cons operation operations ih =>
      have first : Evolves task (fun _ => True) moment.state (moment.step operation).state :=
        (moment.step_evolves operation (admits.1.apart known)).widen fun _ _ => trivial
      exact first.trans (ih admits.2 (moment.mem_step_added operation known))

/-- A task of a history was added before a moment of it, or nothing of it was known then. -/
theorem Orderly.known_or {operations : List (Operation σ)}
    (orderly : (moment.after operations).Orderly) (member : task ∈ (moment.after operations).added) :
    task ∈ moment.added ∨ ∀ other ∈ moment.added, other.key ≠ task.key := by
  by_cases strange : ∀ other ∈ moment.added, other.key ≠ task.key
  · exact .inr strange
  · push Not at strange
    obtain ⟨other, known, key⟩ := strange
    left
    rw [← List.inj_on_of_nodup_map orderly.distinct (moment.mem_after_added operations known) member
      key]
    exact known

end Moment

end RpcDispatch
