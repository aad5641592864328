import RpcDispatch.Proofs.Task.Reach

/-
This file says which tasks a manager holds at any time: none is held twice, the queue waits, and
the pending list has every task that is in flight.
-/

namespace RpcDispatch

open Exchange (Leads)

variable {σ : Type}

/-- The request of a task, if it has one. -/
def Task.key? : Task σ → Option Key
  | .request task => some task.key
  | _ => none

namespace TaskManager

/-- A manager after some operations, with all request tasks that were added to it.  Requests come
and other threads act on them between the operations, and at every turn within them. -/
inductive Run : List (RequestTask σ) → TaskManager σ → Exchange σ → Prop where
  | start (state : σ) (senders : ClientId → Nat → Option SendFault)
      (others : List (List (Act σ))) :
      Run [] .empty { Exchange.start state senders with others }
  | enroll {added : List (RequestTask σ)} {manager : TaskManager σ} {exchange : Exchange σ}
      (request : Request) (run : Run added manager exchange) :
      Run added manager (exchange.enroll request).2
  | act {added : List (RequestTask σ)} {manager : TaskManager σ} {exchange : Exchange σ}
      (act : Act σ) (run : Run added manager exchange) :
      Run added manager (exchange.perform act)
  | add {added : List (RequestTask σ)} {manager : TaskManager σ} {exchange : Exchange σ}
      (key : Key) (request : Request) (entrypoint : Entrypoint σ)
      (enrolled : exchange.requests[key]? = some request) (new : ∀ task ∈ added, task.key ≠ key)
      (run : Run added manager exchange) :
      Run (added ++ [.create key request entrypoint])
        (manager.add (.request (.create key request entrypoint)) exchange).1
        (manager.add (.request (.create key request entrypoint)) exchange).2
  | addChunk {added : List (RequestTask σ)} {manager : TaskManager σ} {exchange : Exchange σ}
      (task : ChunkTask σ) (run : Run added manager exchange) :
      Run added (manager.add (.chunk task) exchange).1 (manager.add (.chunk task) exchange).2
  | runAll {added : List (RequestTask σ)} {manager : TaskManager σ} {exchange : Exchange σ}
      (run : Run added manager exchange) :
      Run added (manager.runAll exchange).1 (manager.runAll exchange).2
  | cancel {added : List (RequestTask σ)} {manager : TaskManager σ} {exchange : Exchange σ}
      (client : ClientId) (id : Rpc.Id) (run : Run added manager exchange) :
      Run added (manager.cancel client id exchange).2.1 (manager.cancel client id exchange).2.2
  | disconnect {added : List (RequestTask σ)} {manager : TaskManager σ} {exchange : Exchange σ}
      (client : ClientId) (run : Run added manager exchange) :
      Run added (manager.disconnect client exchange).1 (manager.disconnect client exchange).2

variable {since : Key} {added : List (RequestTask σ)} {manager : TaskManager σ}
  {exchange : Exchange σ}

/-- Every run of a manager keeps its account. -/
theorem Run.accounts (run : Run added manager exchange) :
    manager.Accounts 0 added exchange := by
  induction run with
  | start state senders others =>
      refine accounts_empty _ fun key _ => ?_
      simp [Exchange.start, Exchange.calls]
  | enroll request _ ih => exact ih.enroll request
  | act act _ ih => exact ih.perform act
  | add key request entrypoint enrolled new _ ih =>
      exact ih.add key request entrypoint (Nat.zero_le key) enrolled new
  | addChunk task _ ih => exact ih.addChunk task
  | runAll _ ih => exact ih.runAll
  | cancel client id _ ih => exact ih.cancel client id
  | disconnect client _ ih => exact ih.disconnect client

/-- What is known of the tasks of a manager, compared with all tasks that were added to it. -/
structure Tracked (added : List (RequestTask σ)) (manager : TaskManager σ)
    (exchange : Exchange σ) : Prop where
  /-- Only added tasks are held. -/
  known : ∀ task ∈ manager.queue ++ manager.pending,
    ∃ current first, task = .request current ∧ first ∈ added ∧ current.Same first
  /-- Each of them is held once, in one of the two lists. -/
  once : ((manager.queue ++ manager.pending).map Task.key?).Nodup
  /-- No task of the queue has been run. -/
  waiting : ∀ task, .request task ∈ manager.queue →
    task.running = false ∧ .request task.key ∉ exchange.calls
  /-- Every pending task has been run. -/
  started : ∀ task, .request task ∈ manager.pending →
    task.running = true ∧ .request task.key ∈ exchange.calls
  /-- Every task that is in flight is pending. -/
  kept : ∀ task ∈ added, InFlight task exchange →
    ∃ current, current.Same task ∧ .request current ∈ manager.pending
  /-- Work is pending exactly when a task is in flight. -/
  pending : manager.hasPending exchange = true ↔ ∃ task ∈ added, InFlight task exchange

/-- A manager whose account is in order tracks its tasks. -/
theorem Accounts.tracked (accounts : manager.Accounts since added exchange) :
    manager.Tracked added exchange := by
  obtain ⟨queued, pending, rfl, ledger, _⟩ := accounts
  have kept : ∀ task ∈ added, InFlight task exchange →
      ∃ current ∈ pending, current.key = task.key ∧ current.Same task := by
    intro task member flying
    obtain ⟨held, present, key⟩ := ledger.kept task member flying
    exact ⟨held, present, key, ledger.same (List.mem_append_right _ present) member key⟩
  refine ⟨?_, ?_, ?_, ?_, ?_, ?_⟩
  · intro task held
    rw [← List.map_append] at held
    obtain ⟨current, present, rfl⟩ := List.mem_map.mp held
    obtain ⟨first, there, same⟩ := ledger.origin current present
    exact ⟨current, first, rfl, there, same⟩
  · have keys : ((queued.map Task.request ++ pending.map Task.request).map Task.key?) =
        ((queued ++ pending).map (·.key)).map some := by
      simp [Function.comp_def, Task.key?]
    rw [keys]
    exact ledger.once.map fun _ _ => Option.some.inj
  · intro task held
    obtain ⟨current, present, same⟩ := List.mem_map.mp held
    cases same
    exact ledger.waiting task present
  · intro task held
    obtain ⟨current, present, same⟩ := List.mem_map.mp held
    cases same
    exact ledger.started task present
  · intro task member flying
    obtain ⟨current, present, _, same⟩ := kept task member flying
    exact ⟨current, same, List.mem_map_of_mem present⟩
  · simp only [hasPending, List.any_map, List.any_eq_true, Function.comp_apply, Task.isPending]
    constructor
    · rintro ⟨current, present, pends⟩
      obtain ⟨first, there, same⟩ := ledger.origin current (List.mem_append_right _ present)
      exact ⟨first, there, (ledger.isPending_iff present there same.key).mp pends⟩
    · rintro ⟨task, member, flying⟩
      obtain ⟨current, present, key, _⟩ := kept task member flying
      exact ⟨current, present, (ledger.isPending_iff present member key).mpr flying⟩

end TaskManager

/-! ### A task that stays in flight -/

/-- A method that is answered later, if at all. -/
def holdEntrypoint : Entrypoint Unit :=
  { method := "hold", isAsync := true, onRequest := fun _ _ => .done .success }

def holdRequest : Request :=
  ⟨⟨1⟩, .request "hold" .null (.integer 1), []⟩

def holdTask : RequestTask Unit :=
  .create 0 holdRequest holdEntrypoint

/-- A manager that has run the task. -/
def holdManager : TaskManager Unit × Exchange Unit :=
  let enrolled := ((Exchange.start () fun _ _ => none).enroll holdRequest).2
  let (manager, exchange) := TaskManager.empty.add (.request holdTask) enrolled
  manager.runAll exchange

theorem holdManager_run : TaskManager.Run [holdTask] holdManager.1 holdManager.2 :=
  (((TaskManager.Run.start () (fun _ _ => none) []).enroll holdRequest).add 0 holdRequest
    holdEntrypoint rfl (by simp)).runAll

end RpcDispatch
