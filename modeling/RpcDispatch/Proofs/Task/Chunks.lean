import RpcDispatch.Proofs.Exchange.Effect
import RpcDispatch.Proofs.Task.History

/-
This file follows raw chunks through the task manager.  A chunk has priority and is never pending,
so it runs when it is added and neither list ever holds one; what is kept there can be named by
clients, and a chunk cannot.
-/

namespace RpcDispatch

variable {σ ρ β : Type}

/-- A view of events that shows nothing of what acts on requests leave in the record. -/
structure Event.SkipsActs (view : Event → Option β) : Prop where
  answer : ∀ key client text fault, view (@Event.sent (.answer key) client text fault) = none
  progress : ∀ key client text fault, view (@Event.sent (.progress key) client text fault) = none
  note : ∀ value, view (.note value) = none
  logged : ∀ thread notice, view (.logged thread notice) = none

/-- The chunk that an event gives to the consumer, with its client. -/
def Event.chunk? : Event → Option (ClientId × Bytes)
  | .chunk client bytes => some (client, bytes)
  | .sent .. | .called .. | .note _ | .logged .. => none

/-- The text that an event hands over for no request. -/
def Event.direct? : Event → Option (ClientId × String)
  | @Event.sent .direct client text _ => some (client, text)
  | _ => none

theorem Event.chunk?_skipsActs : Event.SkipsActs Event.chunk? :=
  ⟨fun _ _ _ _ => rfl, fun _ _ _ _ => rfl, fun _ => rfl, fun _ _ => rfl⟩

theorem Event.direct?_skipsActs : Event.SkipsActs Event.direct? :=
  ⟨fun _ _ _ _ => rfl, fun _ _ _ _ => rfl, fun _ => rfl, fun _ _ => rfl⟩

namespace Exchange

variable {view : Event → Option β} {exchange : Exchange σ}

/-- What a view shows of the record. -/
def shown (view : Event → Option β) (exchange : Exchange σ) : List β :=
  exchange.trace.filterMap view

/-- All chunks that were given to the consumer, in order. -/
def chunks (exchange : Exchange σ) : List (ClientId × Bytes) :=
  exchange.shown Event.chunk?

/-- An event adds what the view shows of it. -/
theorem record_shown (exchange : Exchange σ) (event : Event) :
    (exchange.record event).shown view = exchange.shown view ++ (view event).toList := by
  cases seen : view event <;> simp [record, shown, seen]

/-- Log notices show nothing. -/
theorem log_shown (skips : Event.SkipsActs view) (exchange : Exchange σ) (notice : Log.Notice) :
    (exchange.log notice).shown view = exchange.shown view := by
  rw [log, record_shown, skips.logged]
  exact List.append_nil _

/-- Sending for a request shows nothing. -/
theorem send_shown (skips : Event.SkipsActs view) {cause : Cause} {key : Key}
    (own : cause = .answer key ∨ cause = .progress key) (exchange : Exchange σ)
    (request : Request) (text : String) :
    (exchange.send cause request text).shown view = exchange.shown view := by
  have attempted (before : Exchange σ) :
      (before.attempt request.client text cause).2.shown view = before.shown view := by
    refine (record_shown _ _).trans ?_
    rcases own with rfl | rfl
    · rw [skips.answer]
      exact List.append_nil _
    · rw [skips.progress]
      exact List.append_nil _
  rcases exchange.send_eq cause request text with same | ⟨fault, same⟩
  · rw [same, attempted, log_shown skips]
  · rw [same, log_shown skips, attempted, log_shown skips]

/-- Answers show nothing. -/
theorem answer_shown (skips : Event.SkipsActs view) (exchange : Exchange σ) (key : Key)
    (encode : Rpc.Id → String) :
    (exchange.answer key encode).shown view = exchange.shown view := by
  rcases exchange.answer_cases key encode with
    same | ⟨notice, same⟩ | ⟨channel, -, -, -, -, same⟩
  · rw [same]
  · rw [same, log_shown skips]
  · rw [same, send_shown skips (.inl rfl)]
    rfl

/-- Acts show nothing. -/
theorem perform_shown (skips : Event.SkipsActs view) (exchange : Exchange σ) (act : Act σ) :
    (exchange.perform act).shown view = exchange.shown view := by
  cases act with
  | reply key result =>
      rw [perform, reply_eq]
      exact answer_shown skips exchange key _
  | error key error =>
      rw [perform, Exchange.error]
      exact answer_shown skips exchange key _
  | progress key operation amount =>
      rw [perform]
      rcases exchange.progress_cases key operation amount with
        same | ⟨channel, text, -, -, -, -, same⟩
      · rw [same]
      · rw [same, send_shown skips (.inr rfl)]
  | note value =>
      rw [perform, record_shown, skips.note]
      exact List.append_nil _
  | log notice => exact log_shown skips exchange notice
  | close key => rfl
  | write state => rfl
  | switch thread => rfl

/-- The turns of the other threads show nothing. -/
theorem pause_shown (skips : Event.SkipsActs view) (exchange : Exchange σ) :
    exchange.pause.shown view = exchange.shown view := by
  unfold pause
  split
  · rfl
  · next acts others taken =>
      have started : ({ exchange with others } : Exchange σ).shown view = exchange.shown view := rfl
      rw [← started]
      generalize ({ exchange with others } : Exchange σ) = current
      clear started taken
      induction acts generalizing current with
      | nil => rfl
      | cons act acts ih => exact (ih (current.perform act)).trans (perform_shown skips current act)

/-- Scripts show nothing. -/
theorem run_shown (skips : Event.SkipsActs view) (script : Script σ ρ) (exchange : Exchange σ) :
    (script.run exchange).2.shown view = exchange.shown view := by
  induction script generalizing exchange with
  | done result => rfl
  | act step next ih =>
      exact (ih _).trans ((perform_shown skips _ step).trans (pause_shown skips exchange))
  | read next ih => exact (ih _ _).trans (pause_shown skips exchange)
  | look key next ih => exact (ih _ _).trans (pause_shown skips exchange)

/-! ### What gives no chunk -/

@[simp] theorem log_chunks (exchange : Exchange σ) (notice : Log.Notice) :
    (exchange.log notice).chunks = exchange.chunks :=
  log_shown Event.chunk?_skipsActs exchange notice

@[simp] theorem enroll_chunks (exchange : Exchange σ) (request : Request) :
    (exchange.enroll request).2.chunks = exchange.chunks := rfl

@[simp] theorem attempt_chunks (exchange : Exchange σ) (client : ClientId) (text : String)
    (cause : Cause) : (exchange.attempt client text cause).2.chunks = exchange.chunks :=
  (record_shown exchange _).trans (List.append_nil _)

@[simp] theorem perform_chunks (exchange : Exchange σ) (act : Act σ) :
    (exchange.perform act).chunks = exchange.chunks :=
  perform_shown Event.chunk?_skipsActs exchange act

@[simp] theorem error_chunks (exchange : Exchange σ) (key : Key) (error : Rpc.Error) :
    (exchange.error key error).chunks = exchange.chunks :=
  exchange.perform_chunks (.error key error)

@[simp] theorem reply_chunks (exchange : Exchange σ) (key : Key)
    (result : Except String Json.Value) : (exchange.reply key result).chunks = exchange.chunks :=
  exchange.perform_chunks (.reply key result)

@[simp] theorem close_chunks (exchange : Exchange σ) (key : Key) :
    (exchange.close key).chunks = exchange.chunks := rfl

@[simp] theorem pause_chunks (exchange : Exchange σ) : exchange.pause.chunks = exchange.chunks :=
  pause_shown Event.chunk?_skipsActs exchange

@[simp] theorem run_chunks (script : Script σ ρ) (exchange : Exchange σ) :
    (script.run exchange).2.chunks = exchange.chunks :=
  run_shown Event.chunk?_skipsActs script exchange

/-- Calling a hook gives no chunk. -/
@[simp] theorem called_chunks (exchange : Exchange σ) (method : String) (hook : Hook) :
    (exchange.record (.called method hook)).chunks = exchange.chunks :=
  (record_shown exchange _).trans (List.append_nil _)

@[simp] theorem callRequest_chunks (exchange : Exchange σ) (entrypoint : Entrypoint σ) (key : Key)
    (request : Request) :
    (exchange.callRequest entrypoint key request).2.chunks = exchange.chunks := by
  simp [callRequest]

@[simp] theorem callCancel_chunks (exchange : Exchange σ) (entrypoint : Entrypoint σ) (key : Key) :
    (exchange.callCancel entrypoint key).chunks = exchange.chunks := by
  simp [callCancel]

@[simp] theorem callDisconnect_chunks (exchange : Exchange σ) (entrypoint : Entrypoint σ)
    (key : Key) : (exchange.callDisconnect entrypoint key).2.chunks = exchange.chunks := by
  simp [callDisconnect]

@[simp] theorem callUpdate_chunks (exchange : Exchange σ) (entrypoint : Entrypoint σ) :
    (exchange.callUpdate entrypoint).chunks = exchange.chunks := by
  simp [callUpdate]

end Exchange

/-! ### Tasks -/

/-- The chunk that a task is, with its client. -/
def Task.chunk? : Task σ → Option (ClientId × Bytes)
  | .chunk task => some (task.client, task.bytes)
  | .request _ | .external _ => none

namespace RequestTask

@[simp] theorem run_chunks (task : RequestTask σ) (exchange : Exchange σ) :
    (task.run exchange).2.chunks = exchange.chunks := by
  unfold run
  split_ifs
  · simp
  · simp
  · rfl
  · dsimp only [invoke]
    split <;> simp

@[simp] theorem cancel_chunks (task : RequestTask σ) (exchange : Exchange σ) :
    (task.cancel exchange).2.2.chunks = exchange.chunks := by
  unfold cancel
  split_ifs <;> simp

@[simp] theorem disconnect_chunks (task : RequestTask σ) (exchange : Exchange σ) :
    (task.disconnect exchange).2.chunks = exchange.chunks := by
  have called := Exchange.callDisconnect_chunks (exchange.pause.close task.key) task.entrypoint
    task.key
  rw [Exchange.close_chunks, Exchange.pause_chunks] at called
  unfold disconnect
  split_ifs
  · rfl
  · dsimp only
    split
    · next same =>
        rw [same] at called
        exact called
    · next same =>
        rw [same] at called
        rwa [Exchange.log_chunks]

end RequestTask

/-- A chunk is given to its consumer once, whatever the consumer makes of it. -/
theorem ChunkTask.run_chunks (task : ChunkTask σ) (exchange : Exchange σ) :
    (task.run exchange).chunks = exchange.chunks ++ [(task.client, task.bytes)] := by
  have called : (exchange.callConsumer task.consumer task.client task.bytes).2.chunks =
      exchange.chunks ++ [(task.client, task.bytes)] :=
    (Exchange.run_chunks _ _).trans (Exchange.record_shown exchange _)
  unfold run
  split
  · next same =>
      rw [same] at called
      exact called
  · next same =>
      rw [same] at called
      rwa [Exchange.log_chunks]

namespace Task

/-- Running a task gives the consumer the chunk that it is. -/
theorem run_chunks (task : Task σ) (exchange : Exchange σ) :
    (task.run exchange).2.chunks = exchange.chunks ++ task.chunk?.toList := by
  cases task with
  | request task => exact (task.run_chunks exchange).trans (List.append_nil _).symm
  | chunk task => exact task.run_chunks exchange
  | external task => exact (Exchange.run_chunks task.run exchange).trans (List.append_nil _).symm

/-- The other operations give none, and leave a task what it is. -/
theorem cancel_chunks (task : Task σ) (exchange : Exchange σ) :
    (task.cancel exchange).2.2.chunks = exchange.chunks ∧
      (task.cancel exchange).2.1.chunk? = task.chunk? := by
  cases task with
  | request task => exact ⟨task.cancel_chunks exchange, rfl⟩
  | chunk task => exact ⟨rfl, rfl⟩
  | external task => exact ⟨Exchange.run_chunks task.cancel exchange, rfl⟩

/-- A disconnection consumes no chunk, and the task keeps the one that it holds. -/
theorem disconnect_chunks (task : Task σ) (exchange : Exchange σ) :
    (task.disconnect exchange).2.chunks = exchange.chunks ∧
      (task.disconnect exchange).1.chunk? = task.chunk? := by
  cases task with
  | request task => exact ⟨task.disconnect_chunks exchange, rfl⟩
  | chunk task => exact ⟨rfl, rfl⟩
  | external task => exact ⟨Exchange.run_chunks task.disconnect exchange, rfl⟩

/-- A chunk is never pending. -/
theorem chunk?_of_isPending {task : Task σ} {exchange : Exchange σ}
    (pending : task.isPending exchange = true) : task.chunk? = none := by
  cases task with
  | request task => rfl
  | chunk task => cases pending
  | external task => rfl

/-- What has to wait for its turn is no chunk. -/
theorem chunk?_of_hasPriority {task : Task σ} (waits : task.hasPriority = false) :
    task.chunk? = none := by
  cases task with
  | request task => rfl
  | chunk task => cases waits
  | external task => rfl

/-- The refusal of chunks comes from no request. -/
theorem cancel_of_cancelError {task : Task σ} {exchange : Exchange σ} (noChunk : task.chunk? = none)
    (refused : (task.cancel exchange).1 = .error ChunkTask.cancelError) :
    ∃ external, task = .external external := by
  cases task with
  | request task =>
      simp only [Task.cancel, RequestTask.cancel] at refused
      split_ifs at refused <;> simp [ChunkTask.cancelError] at refused
  | chunk task => cases noChunk
  | external task => exact ⟨task, rfl⟩

end Task

/-! ### Lists of tasks -/

/-- None of the tasks is a chunk. -/
def ChunkFree (tasks : List (Task σ)) : Prop :=
  ∀ task ∈ tasks, task.chunk? = none

theorem chunkFree_cons {task : Task σ} {tasks : List (Task σ)} :
    ChunkFree (task :: tasks) ↔ task.chunk? = none ∧ ChunkFree tasks :=
  List.forall_mem_cons

namespace TaskManager

/-- Pruning gives no chunk and keeps some of the tasks. -/
theorem keepPending_chunks (tasks : List (Task σ)) (exchange : Exchange σ) :
    (keepPending tasks exchange).2.chunks = exchange.chunks ∧
      (keepPending tasks exchange).1.Sublist tasks := by
  induction tasks generalizing exchange with
  | nil => exact ⟨rfl, .refl []⟩
  | cons task tasks ih =>
      obtain ⟨same, kept⟩ := ih exchange.pause
      refine ⟨same.trans exchange.pause_chunks, ?_⟩
      dsimp only [keepPending]
      split_ifs
      · exact kept.cons_cons task
      · exact kept.cons task

/-- A task that is retained consumes no chunk, and only a task without one is kept. -/
theorem retain_chunks {pending : List (Task σ)} (free : ChunkFree pending) (task : Task σ)
    (exchange : Exchange σ) :
    (retain pending task exchange).2.chunks = exchange.chunks ∧
      ChunkFree (retain pending task exchange).1 := by
  refine ⟨exchange.pause_chunks, ?_⟩
  unfold retain
  split_ifs with stays
  · intro other member
    rcases List.mem_append.mp member with member | member
    · exact free other member
    · rw [List.mem_singleton.mp member]
      exact Task.chunk?_of_isPending stays
  · exact free

/-- Draining a queue without chunks consumes none and keeps none. -/
theorem drain_chunks {queue pending : List (Task σ)} (free : ChunkFree queue)
    (kept : ChunkFree pending) (exchange : Exchange σ) :
    (drain queue pending exchange).2.chunks = exchange.chunks ∧
      ChunkFree (drain queue pending exchange).1 := by
  induction queue generalizing pending exchange with
  | nil => exact ⟨rfl, kept⟩
  | cons task queue ih =>
      obtain ⟨noChunk, rest⟩ := chunkFree_cons.mp free
      have ran := task.run_chunks exchange
      obtain ⟨same, held⟩ := retain_chunks kept (task.run exchange).1 (task.run exchange).2
      obtain ⟨last, left⟩ := ih rest held (retain pending (task.run exchange).1
        (task.run exchange).2).2
      refine ⟨last.trans (same.trans (ran.trans ?_)), left⟩
      rw [noChunk]
      exact List.append_nil _

/-- Disconnecting tasks without chunks consumes none. -/
theorem disconnectEach_chunks {tasks : List (Task σ)} (free : ChunkFree tasks) (client : ClientId)
    (exchange : Exchange σ) :
    (disconnectEach client tasks exchange).2.chunks = exchange.chunks ∧
      ChunkFree (disconnectEach client tasks exchange).1 := by
  induction tasks generalizing exchange with
  | nil => exact ⟨rfl, free⟩
  | cons task tasks ih =>
      obtain ⟨noChunk, rest⟩ := chunkFree_cons.mp free
      obtain ⟨same, stays⟩ := task.disconnect_chunks exchange
      simp only [disconnectEach]
      split_ifs
      · obtain ⟨last, left⟩ := ih rest (task.disconnect exchange).2
        exact ⟨last.trans same, chunkFree_cons.mpr ⟨stays.trans noChunk, left⟩⟩
      · obtain ⟨last, left⟩ := ih rest exchange
        exact ⟨last, chunkFree_cons.mpr ⟨noChunk, left⟩⟩

/-- Cancelling a task of a list gives no chunk, and is refused as chunks are by no request. -/
theorem cancelFirst_chunks {tasks : List (Task σ)} (free : ChunkFree tasks) {client : ClientId}
    {id : Rpc.Id} {exchange : Exchange σ}
    {result : Except Rpc.Error Unit × List (Task σ) × Exchange σ}
    (found : cancelFirst client id tasks exchange = some result) :
    result.2.2.chunks = exchange.chunks ∧ ChunkFree result.2.1 ∧
      (result.1 = .error ChunkTask.cancelError → ∃ external, .external external ∈ tasks) := by
  induction tasks generalizing result with
  | nil => cases found
  | cons task tasks ih =>
      obtain ⟨noChunk, rest⟩ := chunkFree_cons.mp free
      rw [cancelFirst] at found
      split_ifs at found
      · cases found
        obtain ⟨same, stays⟩ := task.cancel_chunks exchange
        refine ⟨same, chunkFree_cons.mpr ⟨stays.trans noChunk, rest⟩, fun refused => ?_⟩
        obtain ⟨external, rfl⟩ := Task.cancel_of_cancelError noChunk refused
        exact ⟨external, .head _⟩
      · obtain ⟨later, taken, rfl⟩ := Option.map_eq_some_iff.mp found
        obtain ⟨same, stays, refused⟩ := ih rest taken
        refine ⟨same, chunkFree_cons.mpr ⟨noChunk, stays⟩, fun error => ?_⟩
        obtain ⟨external, member⟩ := refused error
        exact ⟨external, .tail _ member⟩

/-! ### The manager -/

/-- Neither list holds a chunk. -/
structure HoldsNoChunk (manager : TaskManager σ) : Prop where
  queue : ChunkFree manager.queue
  pending : ChunkFree manager.pending

theorem holdsNoChunk_empty : HoldsNoChunk (TaskManager.empty : TaskManager σ) :=
  ⟨nofun, nofun⟩

variable {manager : TaskManager σ}

/-- Dropping the finished tasks consumes no chunk and only shortens the list of pending ones. -/
theorem HoldsNoChunk.prune (holds : manager.HoldsNoChunk) (exchange : Exchange σ) :
    (manager.prune exchange).2.chunks = exchange.chunks ∧
      (manager.prune exchange).1.HoldsNoChunk ∧
      (manager.prune exchange).1.queue = manager.queue ∧
      (manager.prune exchange).1.pending.Sublist manager.pending := by
  obtain ⟨same, kept⟩ := keepPending_chunks manager.pending exchange
  exact ⟨same, ⟨holds.queue, fun task member => holds.pending task (kept.subset member)⟩, rfl, kept⟩

/-- Adding a task gives the consumer the chunk that it is, at once. -/
theorem HoldsNoChunk.add (holds : manager.HoldsNoChunk) (task : Task σ) (exchange : Exchange σ) :
    (manager.add task exchange).2.chunks = exchange.chunks ++ task.chunk?.toList ∧
      (manager.add task exchange).1.HoldsNoChunk := by
  unfold TaskManager.add
  split_ifs with priority
  · have ran := task.run_chunks (exchange.log (.runningPriority task.client task.method))
    obtain ⟨same, kept⟩ := retain_chunks holds.pending
      (task.run (exchange.log (.runningPriority task.client task.method))).1
      (task.run (exchange.log (.runningPriority task.client task.method))).2
    rw [Exchange.log_chunks] at ran
    exact ⟨same.trans ran, holds.queue, kept⟩
  · have noChunk := Task.chunk?_of_hasPriority (Bool.eq_false_iff.mpr priority)
    refine ⟨?_, ?_, holds.pending⟩
    · rw [noChunk, Exchange.log_chunks]
      exact (List.append_nil _).symm
    · intro other member
      rcases List.mem_append.mp member with member | member
      · exact holds.queue other member
      · rw [List.mem_singleton.mp member]
        exact noChunk

/-- Running the queue of a manager without chunks consumes none. -/
theorem HoldsNoChunk.runAll (holds : manager.HoldsNoChunk) (exchange : Exchange σ) :
    (manager.runAll exchange).2.chunks = exchange.chunks ∧
      (manager.runAll exchange).1.HoldsNoChunk := by
  obtain ⟨ran, kept⟩ := drain_chunks holds.queue holds.pending exchange
  have drained : HoldsNoChunk ⟨[], (drain manager.queue manager.pending exchange).1⟩ :=
    ⟨nofun, kept⟩
  obtain ⟨same, left, -⟩ := drained.prune (drain manager.queue manager.pending exchange).2
  exact ⟨same.trans ran, left⟩

/-- A disconnection in a manager without chunks consumes none. -/
theorem HoldsNoChunk.disconnect (holds : manager.HoldsNoChunk) (client : ClientId)
    (exchange : Exchange σ) :
    (manager.disconnect client exchange).2.chunks = exchange.chunks ∧
      (manager.disconnect client exchange).1.HoldsNoChunk := by
  obtain ⟨first, queue⟩ := disconnectEach_chunks holds.queue client exchange
  obtain ⟨second, pending⟩ := disconnectEach_chunks holds.pending client
    (disconnectEach client manager.queue exchange).2
  have left : HoldsNoChunk ⟨_, _⟩ := ⟨queue, pending⟩
  obtain ⟨same, kept, -⟩ := left.prune (disconnectEach client manager.pending
    (disconnectEach client manager.queue exchange).2).2
  exact ⟨(Exchange.log_chunks _ _).trans (same.trans (second.trans first)), kept⟩

/-- The report of a cancellation consumes no chunk. -/
theorem reportCancel_chunks (client : ClientId) (id : Rpc.Id) (outcome : Except Rpc.Error Unit)
    (exchange : Exchange σ) :
    (reportCancel client id outcome exchange).chunks = exchange.chunks := by
  cases outcome with
  | ok => exact exchange.log_chunks _
  | error => rfl

/-- Whatever a client names, cancelling gives no chunk; and where it is refused as chunks are, the
application has supplied a task that does so. -/
theorem HoldsNoChunk.cancel (holds : manager.HoldsNoChunk) (client : ClientId) (id : Rpc.Id)
    (exchange : Exchange σ) :
    (manager.cancel client id exchange).2.2.chunks = exchange.chunks ∧
      (manager.cancel client id exchange).2.1.HoldsNoChunk ∧
      ((manager.cancel client id exchange).1 = .error ChunkTask.cancelError →
        ∃ external, .external external ∈ manager.queue ++ manager.pending) := by
  obtain ⟨pruned, left, queue, pending⟩ := holds.prune exchange
  unfold TaskManager.cancel
  split_ifs with unnamed
  · exact ⟨rfl, holds, nofun⟩
  · dsimp only
    split
    · next found =>
        obtain ⟨same, free, refused⟩ := cancelFirst_chunks left.queue found
        refine ⟨(reportCancel_chunks ..).trans (same.trans pruned), ⟨free, left.pending⟩,
          fun error => ?_⟩
        obtain ⟨external, member⟩ := refused error
        exact ⟨external, List.mem_append_left _ (queue ▸ member)⟩
    · split
      · next found =>
          obtain ⟨same, free, refused⟩ := cancelFirst_chunks left.pending found
          refine ⟨(reportCancel_chunks ..).trans (same.trans pruned), ⟨left.queue, free⟩,
            fun error => ?_⟩
          obtain ⟨external, member⟩ := refused error
          exact ⟨external, List.mem_append_right _ (pending.subset member)⟩
      · exact ⟨pruned, left, nofun⟩

end TaskManager

/-- In no history of a manager, whatever tasks are added to it, one of its lists holds a chunk. -/
theorem Moment.after_holdsNoChunk (moment : Moment σ) (holds : moment.manager.HoldsNoChunk)
    (operations : List (Operation σ)) : (moment.after operations).manager.HoldsNoChunk := by
  induction operations generalizing moment with
  | nil => exact holds
  | cons operation operations ih =>
      refine ih (moment.step operation) ?_
      cases operation with
      | enroll request => exact holds
      | act act => exact holds
      | add task => exact (holds.add task moment.exchange).2
      | runAll => exact (holds.runAll moment.exchange).2
      | cancel client id => exact (holds.cancel client id moment.exchange).2.1
      | disconnect client => exact (holds.disconnect client moment.exchange).2

end RpcDispatch
