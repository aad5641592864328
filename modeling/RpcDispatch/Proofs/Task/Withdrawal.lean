import RpcDispatch.Proofs.Task.Cancellation

/-
This file shows that cancelling is exact.  In every history of a manager it forgets the tasks that
are no longer in flight, and then it touches one task at most: the first one that answers the
identifier.
-/

namespace RpcDispatch

open Exchange (Leads)
open Stage (Path)

variable {σ : Type}

/-! ### What cancelling a single task can do -/

/-- A task that a client cancels is marked.  Tasks of the application have no mark. -/
def Task.marked : Task σ → Task σ
  | .request task => .request { task with cancelled := true }
  | .chunk task => .chunk task
  | .external task => .external task

/-- Whether a task can be cancelled.  A task of the application decides so itself. -/
def Task.AllowsCancel (exchange : Exchange σ) : Task σ → Prop
  | .request task => task.entrypoint.isAsync = true ∧ task.cancelled = false
  | .chunk _ => False
  | .external task => (task.cancel.run exchange).1 = .ok ()

/-- What is done for a task that is cancelled: its entrypoint is asked to stop if the task has
run. -/
def Task.stopped (ran : Bool) (exchange : Exchange σ) : Task σ → Exchange σ
  | .request task => if ran then exchange.callCancel task.entrypoint task.key else exchange
  | .chunk _ => exchange
  | .external task => (task.cancel.run exchange).2

/-- The hooks that are called for it. -/
def Task.stopHooks (ran : Bool) : Task σ → List Hook
  | .request task => if ran then [.cancel task.key] else []
  | .chunk _ => []
  | .external _ => []

/-- A request task is running exactly when it is among the tasks that have run. -/
def Task.Placed (ran : Bool) : Task σ → Prop
  | .request task => task.running = ran
  | .chunk _ => True
  | .external _ => True

/-- A task can be cancelled and is marked, or it stays as it is and no hook is called. -/
theorem Task.cancel_exact {ran : Bool} (task : Task σ) (exchange : Exchange σ)
    (placed : task.Placed ran) :
    (task.AllowsCancel exchange ∧ task.cancel exchange =
        (.ok (), task.marked, task.stopped ran exchange)) ∨
      (¬ task.AllowsCancel exchange ∧ ∃ error after,
        task.cancel exchange = (.error error, task, after) ∧
          Leads anyKey noHook exchange after) := by
  cases task with
  | request task =>
      have running : task.running = ran := placed
      cases isAsync : task.entrypoint.isAsync with
      | false =>
          right
          constructor
          · simp [AllowsCancel, isAsync]
          · exact ⟨_, exchange, by simp [Task.cancel, RequestTask.cancel, isAsync]; rfl,
            .refl exchange⟩
      | true =>
          cases cancelled : task.cancelled with
          | false =>
              left
              constructor
              · exact ⟨isAsync, cancelled⟩
              · simp [Task.cancel, RequestTask.cancel, isAsync, cancelled, running, marked, stopped]
          | true =>
              right
              constructor
              · simp [AllowsCancel, cancelled]
              · exact ⟨_, exchange,
                  by simp [Task.cancel, RequestTask.cancel, isAsync, cancelled]; rfl,
                  .refl exchange⟩
  | chunk task => exact .inr ⟨not_false, _, exchange, rfl, .refl exchange⟩
  | external task =>
      have quiet : Leads anyKey noHook exchange (task.cancel.run exchange).2 :=
        task.cancel.run_leads exchange (Script.closesOnly_anyKey _)
      cases outcome : (task.cancel.run exchange).1 with
      | ok =>
          left
          constructor
          · exact outcome
          · simp [Task.cancel, outcome, marked, stopped]
      | error error =>
          right
          constructor
          · simp [AllowsCancel, outcome]
          · exact ⟨error, _, by simp [Task.cancel, outcome], quiet⟩

/-- Where a task is asked to stop, its cancel hook is called and no other. -/
theorem Task.stopped_calls (ran : Bool) (task : Task σ) (exchange : Exchange σ) :
    (task.stopped ran exchange).calls = exchange.calls ++ task.stopHooks ran := by
  cases task with
  | request task =>
      cases ran with
      | false => exact (List.append_nil _).symm
      | true =>
          have stopping : Leads anyKey noHook
              (exchange.record (.called task.entrypoint.method (.cancel task.key)))
              (exchange.callCancel task.entrypoint task.key) :=
            task.entrypoint.onCancel.run_leads _ (Script.closesOnly_anyKey _)
          show (exchange.callCancel task.entrypoint task.key).calls = _
          rw [stopping.calls_quiet (Exchange.othersCloseOnly_anyKey _),
            Exchange.record_called_calls]
          rfl
  | chunk task => exact (List.append_nil _).symm
  | external task =>
      have quiet : Leads anyKey noHook exchange (task.cancel.run exchange).2 :=
        task.cancel.run_leads exchange (Script.closesOnly_anyKey _)
      show (task.cancel.run exchange).2.calls = exchange.calls ++ []
      rw [quiet.calls_quiet exchange.othersCloseOnly_anyKey, List.append_nil]

/-! ### The tasks that are still in flight -/

/-- Whether a task is in flight.  A task of the application decides so itself. -/
def Task.IsInFlight (exchange : Exchange σ) : Task σ → Prop
  | .request task => InFlight task exchange
  | .chunk _ => False
  | .external task => task.isPending exchange.state = true

/-- The tasks of a list that are in flight when they are asked.  They are asked in order, and other
threads have a turn before each. -/
inductive StillInFlight : Exchange σ → List (Task σ) → List (Task σ) → Prop where
  | nil (exchange : Exchange σ) : StillInFlight exchange [] []
  | keep {exchange : Exchange σ} {task : Task σ} {tasks kept : List (Task σ)}
      (flies : task.IsInFlight exchange.pause) (rest : StillInFlight exchange.pause tasks kept) :
      StillInFlight exchange (task :: tasks) (task :: kept)
  | drop {exchange : Exchange σ} {task : Task σ} {tasks kept : List (Task σ)}
      (landed : ¬ task.IsInFlight exchange.pause)
      (rest : StillInFlight exchange.pause tasks kept) :
      StillInFlight exchange (task :: tasks) kept

/-- Replacing a task in one of the lists replaces it in the two lists together. -/
theorem TaskManager.withTasks_append {manager : TaskManager σ} {ran : Bool}
    {front rest : List (Task σ)} {found : Task σ}
    (split : manager.tasks ran = front ++ found :: rest) :
    ∃ before behind, manager.queue ++ manager.pending = before ++ found :: behind ∧
      (ran = true ↔ manager.queue.length ≤ before.length) ∧
      (∀ task ∈ before, task ∈ front ∨ ran = true ∧ task ∈ manager.queue) ∧
      ∀ other, let changed := manager.withTasks ran (front ++ other :: rest)
        changed.queue ++ changed.pending = before ++ other :: behind ∧
          changed.queue.length = manager.queue.length := by
  cases ran with
  | false =>
      have whole : manager.queue = front ++ found :: rest := split
      refine ⟨front, rest ++ manager.pending, ?_, ?_, fun _ => .inl, fun other => ⟨?_, ?_⟩⟩
      · simp [whole]
      · simp [whole]
      · simp [TaskManager.withTasks]
      · simp [TaskManager.withTasks, whole]
  | true =>
      have whole : manager.pending = front ++ found :: rest := split
      refine ⟨manager.queue ++ front, rest, ?_, ?_, ?_, fun other => ⟨?_, rfl⟩⟩
      · simp [whole]
      · simp
      · intro task member
        exact (List.mem_append.mp member).symm.imp_right fun queued => ⟨rfl, queued⟩
      · exact (List.append_assoc _ _ _).symm

namespace Moment

variable {moment : Moment σ} {task : RequestTask σ}

/-! ### Reachable managers -/

/-- What can become of a manager: operations in any order, some of which drop all its tasks. -/
inductive Reachable : Moment σ → Prop where
  | start (state : σ) (senders : ClientId → Nat → Option SendFault)
      (others : List (List (Act σ))) : Reachable (.start state senders others)
  | step {moment : Moment σ} (operation : Operation σ) (admits : moment.Admits operation)
      (reached : moment.Reachable) : Reachable (moment.step operation)
  | clear {moment : Moment σ} (reached : moment.Reachable) :
      Reachable { moment with manager := .empty }

theorem Reachable.after {operations : List (Operation σ)} (reached : moment.Reachable)
    (admits : moment.AdmitsAll operations) : (moment.after operations).Reachable := by
  induction operations generalizing moment with
  | nil => exact reached
  | cons operation operations ih => exact ih (.step operation admits.1 reached) admits.2

/-- A task that is still held has come to its stage by what was called for it. -/
def Accounted (moment : Moment σ) (task : RequestTask σ) (stage : Stage) : Prop :=
  Stands task stage moment.manager ∧
    (stage ≠ .gone → Path task.key (fun _ => True) .new (moment.exchange.callsFor task.key) stage)

/-- In every reachable manager the tasks that were added are accounted for, and nothing is known of
any other. -/
theorem Reachable.accounted (reached : moment.Reachable) (task : RequestTask σ) :
    (task ∈ moment.added → ∃ stage, stage ≠ .new ∧ moment.Accounted task stage) ∧
      ((∀ other ∈ moment.added, other.key ≠ task.key) →
        Stands task .new moment.manager ∧ moment.exchange.callsFor task.key = []) := by
  have dropped (stage : Stage) (away : ∀ ran, stage.forms task ran = []) :
      Stands task stage (TaskManager.empty : TaskManager σ) := by
    rintro (_ | _)
    · exact (away false).symm
    · exact (away true).symm
  induction reached with
  | start state senders others => exact ⟨nofun, fun _ => ⟨dropped .new fun _ => rfl, rfl⟩⟩
  | clear reached ih =>
      constructor
      · intro _
        exact ⟨.gone, by simp, dropped .gone fun _ => rfl, fun held => absurd rfl held⟩
      · intro strange
        exact ⟨dropped .new fun _ => rfl, (ih.2 strange).2⟩
  | @step moment operation admits reached ih =>
      have entered : Path task.key (fun _ => True) .new [] (.held false false false) :=
        Stage.Step.enter.path trivial
      constructor
      · intro member
        have listed : task ∈ moment.added ∨ operation.added? = some task := by
          simpa [Moment.step, Option.mem_toList] using member
        by_cases old : task ∈ moment.added
        · obtain ⟨stage, known, stands, life⟩ := ih.1 old
          obtain ⟨hooks, next, path, there, calls⟩ :=
            moment.step_evolves operation (admits.apart old) stage stands
          have recalled : (moment.step operation).exchange.callsFor task.key = _ := calls
          refine ⟨next, path.ne_new known, there, fun stays => ?_⟩
          -- what is gone does not come back, so the life of a held task is known
          have held : stage ≠ .gone := by
            rintro rfl
            exact stays path.of_gone
          rw [recalled]
          exact (life held).trans (path.widen fun _ _ => trivial)
        · have new := listed.resolve_left old
          obtain ⟨stands, silent⟩ := ih.2 (admits task new).2.2
          obtain ⟨hooks, next, path, there, calls, _⟩ := step_begins new admits stands
          refine ⟨next, path.ne_new (by simp), there, fun _ => ?_⟩
          rw [calls, silent]
          exact entered.trans (path.widen fun _ _ => trivial)
      · intro strange
        obtain ⟨stands, silent⟩ :=
          ih.2 fun other member => strange other (by simp [Moment.step, member])
        obtain ⟨stands, calls⟩ := step_new stands operation
          fun added new => strange added (by simp [Moment.step, new])
        exact ⟨stands, calls.trans silent⟩

/-- A request task that a manager holds has been added, and its flags are those of its stage. -/
theorem Reachable.held (reached : moment.Reachable) {ran : Bool} {held : RequestTask σ}
    (member : .request held ∈ moment.manager.tasks ran) :
    ∃ cancelled disconnected, held = held.flagged ran cancelled disconnected ∧
      Path held.key (fun _ => True) .new (moment.exchange.callsFor held.key)
        (.held ran cancelled disconnected) := by
  by_cases strange : ∀ other ∈ moment.added, other.key ≠ held.key
  · obtain ⟨_, _, never, _⟩ := ((reached.accounted held).2 strange).1.of_mem member rfl
    cases never
  · push Not at strange
    obtain ⟨task, known, key⟩ := strange
    obtain ⟨stage, _, stands, life⟩ := (reached.accounted task).1 known
    obtain ⟨cancelled, disconnected, rfl, form⟩ := stands.of_mem member key.symm
    have flags : held = held.flagged ran cancelled disconnected := by
      rw [form]
      rfl
    exact ⟨cancelled, disconnected, flags, key ▸ life (by simp)⟩

/-- Queued tasks are not running, and pending tasks are. -/
theorem Reachable.placed (reached : moment.Reachable) {ran : Bool} {task : Task σ}
    (member : task ∈ moment.manager.tasks ran) : task.Placed ran := by
  cases task with
  | request task =>
      obtain ⟨_, _, flags, _⟩ := reached.held member
      show task.running = ran
      rw [flags]
      rfl
  | chunk task => trivial
  | external task => trivial

/-- A task of the pending list that is asked is pending when it is in flight. -/
theorem Reachable.isPending_iff (reached : moment.Reachable) {task : Task σ} {asked : Exchange σ}
    (member : task ∈ moment.manager.pending) (quiet : Leads anyKey noHook moment.exchange asked) :
    task.isPending asked = true ↔ task.IsInFlight asked := by
  cases task with
  | chunk task => exact ⟨nofun, False.elim⟩
  | external task => exact Iff.rfl
  | request task =>
      have listed : .request task ∈ moment.manager.tasks true := member
      obtain ⟨cancelled, disconnected, flags, path⟩ := reached.held listed
      have running : task.running = true := by rw [flags]; rfl
      have flag : task.disconnected = disconnected := congrArg RequestTask.disconnected flags
      rw [← quiet.callsFor_quiet] at path
      have called : .request task.key ∈ asked.calls :=
        (Exchange.mem_callsFor asked rfl).mp path.requested
      have left : task.disconnected = false ↔ .disconnect task.key ∉ asked.calls := by
        rw [flag, ← Exchange.mem_callsFor asked rfl]
        cases disconnected with
        | false => exact ⟨fun _ => path.stays, fun _ => rfl⟩
        | true => exact ⟨nofun, fun away => absurd path.left away⟩
      show task.isPending asked = true ↔ InFlight task asked
      rw [task.isPending_iff]
      constructor
      · rintro ⟨_, stays, isAsync, expected, unanswered⟩
        exact ⟨isAsync, expected, called, left.mp stays, unanswered⟩
      · intro flying
        exact ⟨running, left.mpr flying.stays, flying.isAsync, flying.expected, flying.unanswered⟩

/-- Pruning keeps the tasks that are still in flight. -/
theorem Reachable.keepPending (reached : moment.Reachable) {tasks : List (Task σ)}
    {asked : Exchange σ} (members : ∀ task ∈ tasks, task ∈ moment.manager.pending)
    (quiet : Leads anyKey noHook moment.exchange asked) :
    StillInFlight asked tasks (TaskManager.keepPending tasks asked).1 := by
  induction tasks generalizing asked with
  | nil => exact .nil asked
  | cons task tasks ih =>
      have turn : Leads anyKey noHook moment.exchange asked.pause := quiet.pause
      have rest := ih (fun later member => members later (List.mem_cons_of_mem _ member)) turn
      have same := reached.isPending_iff (members task List.mem_cons_self) turn
      unfold TaskManager.keepPending
      dsimp only
      split_ifs with pends
      · exact .keep (same.mp pends) rest
      · exact .drop (mt same.mpr pends) rest

/-! ### Cancelling is exact -/

/-- The outcome of cancelling an identifier when the given tasks are still in flight. -/
structure CancelsFirst (moment : Moment σ) (kept : List (Task σ)) (client : ClientId) (id : Rpc.Id)
    (result : Except Rpc.Error Unit × TaskManager σ × Exchange σ) : Prop where
  /-- It succeeds when the first task with the identifier, in the queue and then among the tasks in
  flight, can be cancelled. -/
  succeeds : result.1 = .ok () ↔ ∃ task,
    (moment.manager.queue ++ kept).find? (·.isFor client id) = some task ∧
      task.AllowsCancel (moment.manager.prune moment.exchange).2
  /-- Then this task is marked where it stands, and it is asked to stop if it is pending. -/
  marked : result.1 = .ok () → ∃ ran front task rest,
    moment.manager.queue ++ kept = front ++ task :: rest ∧
      (ran = true ↔ moment.manager.queue.length ≤ front.length) ∧
      (∀ other ∈ front, other.isFor client id = false) ∧ task.isFor client id = true ∧
      result.2.1.queue ++ result.2.1.pending = front ++ task.marked :: rest ∧
      result.2.1.queue.length = moment.manager.queue.length ∧
      result.2.2 = (task.stopped ran (moment.manager.prune moment.exchange).2).log
        (.taskCancelled client id) ∧
      result.2.2.calls = moment.exchange.calls ++ task.stopHooks ran
  /-- Otherwise every task is as it was, and no hook is called. -/
  refused : ∀ error, result.1 = .error error →
    result.2.1 = ⟨moment.manager.queue, kept⟩ ∧ result.2.2.calls = moment.exchange.calls

/-- Cancelling fails where no task can be cancelled. -/
theorem cancelsFirst_of_error {kept : List (Task σ)} {client : ClientId} {id : Rpc.Id}
    {error : Rpc.Error} {after : Exchange σ} (calls : after.calls = moment.exchange.calls)
    (barred : ¬ ∃ task, (moment.manager.queue ++ kept).find? (·.isFor client id) = some task ∧
      task.AllowsCancel (moment.manager.prune moment.exchange).2) :
    moment.CancelsFirst kept client id (.error error, ⟨moment.manager.queue, kept⟩, after) where
  succeeds := by
    constructor
    · intro impossible
      cases impossible
    · exact fun allowed => absurd allowed barred
  marked := by
    intro impossible
    cases impossible
  refused _ _ := ⟨rfl, calls⟩

/-- Cancelling marks its target, or it changes nothing but to prune. -/
theorem Reachable.cancelsFirst (reached : moment.Reachable) (client : ClientId) (id : Rpc.Id)
    (named : id.isEmpty = false) :
    moment.CancelsFirst (moment.manager.prune moment.exchange).1.pending client id
      (moment.manager.cancel client id moment.exchange) := by
  have pruned : Leads anyKey noHook moment.exchange (moment.manager.prune moment.exchange).2 :=
    TaskManager.keepPending_leads _ _
  have calls := pruned.calls_quiet moment.exchange.othersCloseOnly_anyKey
  have first : (moment.manager.queue ++
      (moment.manager.prune moment.exchange).1.pending).find? (·.isFor client id) =
        moment.manager.target? client id moment.exchange := rfl
  rcases moment.manager.cancel_cases client id moment.exchange with
    ⟨empty, _⟩ | ⟨_, missing, error, same⟩ |
      ⟨ran, front, found, rest, split, target, same, early, late⟩
  · rw [named] at empty
    cases empty
  · rw [same]
    apply cancelsFirst_of_error calls
    rw [first, missing]
    simp
  · have member : found ∈ (moment.manager.prune moment.exchange).1.tasks ran := by simp [split]
    have placed : found.Placed ran := reached.placed (TaskManager.mem_of_prune member)
    rcases found.cancel_exact (moment.manager.prune moment.exchange).2 placed with
      ⟨allowed, cut⟩ | ⟨barred, error, after, cut, quiet⟩
    · obtain ⟨before, behind, whole, running, ahead, changed⟩ :=
        TaskManager.withTasks_append split
      obtain ⟨stays, length⟩ := changed found.marked
      rw [same, cut]
      constructor
      · rw [first, target]
        simpa using allowed
      · intro _
        have hit : found.isFor client id = true := by
          rw [← first] at target
          simpa using List.find?_some target
        refine ⟨ran, before, found, behind, whole, running, ?_, hit, stays, length, rfl, ?_⟩
        · intro other member
          rcases ahead other member with close | ⟨true, queued⟩
          · exact early other close
          · exact late true other queued
        · show ((found.stopped ran _).log (.taskCancelled client id)).calls = _
          rw [Exchange.log_calls, found.stopped_calls, calls]
      · intro _ impossible
        cases impossible
    · have unchanged : (moment.manager.prune moment.exchange).1.withTasks ran
          (front ++ found :: rest) = (moment.manager.prune moment.exchange).1 := by
        rw [← split, TaskManager.withTasks_tasks]
      rw [same, cut]
      dsimp only
      rw [unchanged]
      apply cancelsFirst_of_error
      · exact (quiet.calls_quiet (Exchange.othersCloseOnly_anyKey _)).trans calls
      · rw [first, target]
        simpa using barred

/-- In every reachable manager, cancelling fails and changes nothing without an identifier.
Otherwise it forgets the tasks that are no longer in flight and cancels the first task with the
identifier, if that can be cancelled. -/
theorem cancel_is_exact (moment : Moment σ) (reached : moment.Reachable) (client : ClientId)
    (id : Rpc.Id) :
    let result := moment.manager.cancel client id moment.exchange
    (id.isEmpty = true → result =
        (.error (.invalidParams "Cannot cancel a task without id" []), moment.manager,
          moment.exchange)) ∧
      (id.isEmpty = false → ∃ kept,
        StillInFlight moment.exchange moment.manager.pending kept ∧
          moment.CancelsFirst kept client id result) := by
  intro result
  constructor
  · intro empty
    show moment.manager.cancel client id moment.exchange = _
    simp [TaskManager.cancel, empty]
  · intro named
    exact ⟨_, reached.keepPending (fun _ member => member) (.refl moment.exchange),
      reached.cancelsFirst client id named⟩

/-- A client repeats a request, with the same identifier, while the first one is in flight. -/
def repeatedHistory : List (Operation Unit) :=
  [.enroll holdRequest, .add (.request holdTask), .runAll, .enroll holdRequest,
    .add (.request (.create 1 holdRequest holdEntrypoint))]

/-- Of the two tasks with the identifier the queued one is cancelled, and no hook is called. -/
theorem cancel_is_exact_repeated :
    let moment := (start () (fun _ _ => none) []).after repeatedHistory
    let result := moment.manager.cancel ⟨1⟩ (.integer 1) moment.exchange
    (∃ kept, StillInFlight moment.exchange moment.manager.pending kept ∧
        moment.CancelsFirst kept ⟨1⟩ (.integer 1) result) ∧
      result.1 = .ok () ∧ result.2.2.calls = [.request 0] := by
  have admits : (start () (fun _ _ => none) []).AdmitsAll repeatedHistory := by
    refine ⟨.of_none rfl, ?_, .of_none rfl, .of_none rfl, ?_, trivial⟩
    · rintro task ⟨⟩
      exact ⟨rfl, rfl, nofun⟩
    · rintro task ⟨⟩
      exact ⟨rfl, rfl, by decide⟩
  have reached := (Reachable.start () (fun _ _ => none) []).after admits
  exact ⟨(cancel_is_exact _ reached ⟨1⟩ (.integer 1)).2 rfl, rfl, by decide +kernel⟩

end Moment

end RpcDispatch
