import RpcDispatch.Proofs.Dispatch.Concern
import RpcDispatch.Proofs.Dispatch.Visible
import RpcDispatch.Proofs.Inbox
import RpcDispatch.Proofs.Service.Parameters
import RpcDispatch.Proofs.Service.Steps
import RpcDispatch.Proofs.Task.Chunks

/-
This file says what becomes of raw chunks in the runs of a service: each one is given to the
consumer once, in the order of arrival, and nothing that a client can name is ever a chunk.
-/

namespace RpcDispatch

variable {σ : Type}

/-! ### Frames -/

/-- The chunk in a binary frame whose text has no length: what follows the four bytes of the length,
with the client that sent it. -/
def RawRequest.chunk? (raw : RawRequest) : Option (ClientId × Bytes) :=
  match raw.framing, raw.payload with
  | .binary, 0 :: 0 :: 0 :: 0 :: bytes => some (raw.client, bytes)
  | _, _ => none

/-- A payload is split into no text and a tail exactly if its length field is zero. -/
theorem Rpc.splitBinary_chunk {payload bytes : Bytes} :
    Rpc.splitBinary payload = .ok ⟨[], bytes⟩ ↔ payload = 0 :: 0 :: 0 :: 0 :: bytes := by
  have joined : Rpc.Parts.join ⟨[], bytes⟩ = 0 :: 0 :: 0 :: 0 :: bytes := by
    simp [Rpc.Parts.join, Bytes.lengthField, Bytes.littleEndian]
  rw [← joined]
  constructor
  · intro split
    exact (Rpc.eq_join_of_splitBinary split).1
  · rintro rfl
    exact Rpc.splitBinary_join bytes (by decide)

/-- A frame is a chunk when it is binary and its header says that it has no text. -/
theorem RawRequest.chunk?_eq_some {raw : RawRequest} {client : ClientId} {bytes : Bytes} :
    raw.chunk? = some (client, bytes) ↔
      raw.framing = .binary ∧ raw.payload = 0 :: 0 :: 0 :: 0 :: bytes ∧ raw.client = client := by
  unfold chunk?
  split
  · next rest framing payload => simp [framing, payload, and_comm]
  · next none =>
      simp only [reduceCtorEq, false_iff, not_and]
      intro framing payload
      exact absurd payload (none bytes framing)

example : RawRequest.chunk? ⟨⟨1⟩, [0, 0, 0, 0, 7, 8], .binary⟩ = some (⟨1⟩, [7, 8]) := rfl

/-- The chunk that a frame is taken for. -/
def Intake.chunk? : Intake → Option Bytes
  | .chunk bytes => some bytes
  | .rejected _ _ | .request _ => none

/-- A frame is taken for the chunk that is in it. -/
theorem RawRequest.intake_chunk? (raw : RawRequest) :
    raw.intake.chunk?.map (raw.client, ·) = raw.chunk? := by
  have parsed : (RawRequest.intake.parsed raw).chunk? = none := by
    unfold intake.parsed
    cases Rpc.Envelope.parse raw.payload raw.framing <;> rfl
  have otherwise (none : ∀ bytes, raw.framing = .binary → raw.payload ≠ 0 :: 0 :: 0 :: 0 :: bytes) :
      raw.chunk? = .none := by
    refine Option.eq_none_iff_forall_ne_some.mpr fun chunk found => ?_
    obtain ⟨framing, payload, -⟩ := chunk?_eq_some.mp found
    exact none _ framing payload
  unfold intake
  cases framing : raw.framing with
  | text =>
      rw [otherwise fun bytes binary => absurd (framing.symm.trans binary) nofun]
      exact congrArg _ parsed
  | binary =>
      dsimp only
      cases split : Rpc.splitBinary raw.payload with
      | error fault =>
          refine (otherwise fun bytes _ payload => ?_).symm
          rw [Rpc.splitBinary_chunk.mpr payload] at split
          cases split
      | ok parts =>
          obtain ⟨json, tail⟩ := parts
          cases json with
          | nil => exact (chunk?_eq_some.mpr ⟨framing, Rpc.splitBinary_chunk.mp split, rfl⟩).symm
          | cons byte json =>
              rw [otherwise fun bytes _ payload => ?_]
              · exact congrArg _ parsed
              · rw [Rpc.splitBinary_chunk.mpr payload] at split
                cases split

namespace Dispatcher

open TaskManager (HoldsNoChunk)

variable {dispatcher : Dispatcher σ} {manager : TaskManager σ}

/-- The chunks among some frames that there is a consumer for. -/
def consumes (dispatcher : Dispatcher σ) (raws : List RawRequest) : List (ClientId × Bytes) :=
  if dispatcher.consumer.isSome then raws.filterMap RawRequest.chunk? else []

/-- Chunks are consumed frame after frame. -/
theorem consumes_append (first second : List RawRequest) :
    dispatcher.consumes (first ++ second) =
      dispatcher.consumes first ++ dispatcher.consumes second := by
  unfold consumes
  split_ifs
  · exact List.filterMap_append
  · rfl

/-! ### Dispatching -/

/-- A rejection consumes no chunk. -/
theorem reject_chunks (client : ClientId) (id : Rpc.Id) (error : Rpc.Error)
    (exchange : Exchange σ) :
    (reject client id error exchange).chunks = exchange.chunks := by
  rcases reject_eq client id error exchange with same | ⟨fault, same⟩ <;> simp [same]

@[simp] theorem conclude_chunks (key : Key) (outcome : Except Rpc.Error Unit)
    (exchange : Exchange σ) : (conclude key outcome exchange).chunks = exchange.chunks := by
  cases outcome <;> simp [conclude]

/-- A cancellation consumes no chunk. -/
theorem cancel_chunks (holds : manager.HoldsNoChunk) (key : Key) (request : Request)
    (exchange : Exchange σ) :
    (Dispatcher.cancel key request manager exchange).2.chunks = exchange.chunks ∧
      (Dispatcher.cancel key request manager exchange).1.HoldsNoChunk := by
  rw [cancel_eq]
  cases CancelParams.record.decoder.ofValue request.params with
  | error shape => exact ⟨conclude_chunks .., holds⟩
  | ok params =>
      obtain ⟨same, left, -⟩ := holds.cancel request.client params.id exchange
      exact ⟨(conclude_chunks ..).trans same, left⟩

/-- Routing a request consumes no chunk. -/
theorem route_chunks (dispatcher : Dispatcher σ) (holds : manager.HoldsNoChunk) (key : Key)
    (request : Request) (exchange : Exchange σ) :
    (dispatcher.route key request manager exchange).2.chunks = exchange.chunks ∧
      (dispatcher.route key request manager exchange).1.HoldsNoChunk := by
  unfold route
  split_ifs
  · exact cancel_chunks holds key request exchange
  · exact ⟨by simp, holds⟩
  · split
    · next entrypoint _ =>
        obtain ⟨same, left⟩ := holds.add (.request (.create key request entrypoint)) exchange
        exact ⟨same.trans (List.append_nil _), left⟩
    · exact ⟨by simp, holds⟩

/-- Dispatching a frame gives the consumer the chunk in it, and keeps no chunk. -/
theorem dispatchRequest_chunks (dispatcher : Dispatcher σ) (holds : manager.HoldsNoChunk)
    (raw : RawRequest) (exchange : Exchange σ) :
    (dispatcher.dispatchRequest raw manager exchange).2.chunks =
        exchange.chunks ++ dispatcher.consumes [raw] ∧
      (dispatcher.dispatchRequest raw manager exchange).1.HoldsNoChunk := by
  have found := raw.intake_chunk?
  rw [dispatchRequest_eq]
  cases taken : raw.intake with
  | rejected id error =>
      rw [taken] at found
      have nothing : dispatcher.consumes [raw] = [] := by simp [consumes, ← found, Intake.chunk?]
      exact ⟨by simp [nothing, reject_chunks], holds⟩
  | request request =>
      rw [taken] at found
      have nothing : dispatcher.consumes [raw] = [] := by simp [consumes, ← found, Intake.chunk?]
      obtain ⟨same, left⟩ := dispatcher.route_chunks holds exchange.channels.length
        request ((exchange.enroll request).2.log
          (.dispatching request.client request.id request.method))
      exact ⟨same.trans (by simp [nothing]), left⟩
  | chunk bytes =>
      rw [taken] at found
      dsimp only [dispatchChunk]
      split
      · next unconsumed =>
          have nothing : dispatcher.consumes [raw] = [] := by simp [consumes, unconsumed]
          exact ⟨by simp [nothing], holds⟩
      · next consumer consumed =>
          have one : dispatcher.consumes [raw] = [(raw.client, bytes)] := by
            simp [consumes, consumed, ← found, Intake.chunk?]
          rw [one]
          exact holds.add (.chunk ⟨raw.client, bytes, consumer⟩) exchange

/-- Frames are dispatched one after another, and disconnections give no chunk. -/
theorem routeAll_chunks (dispatcher : Dispatcher σ) (holds : manager.HoldsNoChunk)
    (raws : List RawRequest) (exchange : Exchange σ) :
    (dispatcher.routeAll raws (manager, exchange)).2.chunks =
        exchange.chunks ++ dispatcher.consumes raws ∧
      (dispatcher.routeAll raws (manager, exchange)).1.HoldsNoChunk := by
  induction raws generalizing manager exchange with
  | nil => exact ⟨by simp [routeAll, consumes], holds⟩
  | cons raw raws ih =>
      obtain ⟨first, left⟩ := dispatcher.dispatchRequest_chunks holds raw exchange
      obtain ⟨same, last⟩ := ih left (dispatcher.dispatchRequest raw manager exchange).2
      refine ⟨same.trans ?_, last⟩
      rw [first, List.append_assoc, ← consumes_append]
      rfl

/-- Disconnections consume no chunk. -/
theorem leaveAll_chunks (holds : manager.HoldsNoChunk) (clients : List ClientId)
    (exchange : Exchange σ) :
    (leaveAll clients (manager, exchange)).2.chunks = exchange.chunks ∧
      (leaveAll clients (manager, exchange)).1.HoldsNoChunk := by
  induction clients generalizing manager exchange with
  | nil => exact ⟨rfl, holds⟩
  | cons client clients ih =>
      obtain ⟨first, left⟩ := holds.disconnect client (exchange.log (.clientDisconnected client))
      obtain ⟨same, last⟩ := ih left
        (manager.disconnect client (exchange.log (.clientDisconnected client))).2
      exact ⟨same.trans (first.trans (Exchange.log_chunks ..)), last⟩

/-! ### What a chunk does not do -/

/-- A frame changes nothing for clients.  The tasks and the requests stay as they are, and no text
is handed over except by acts on requests that came before; where nobody acts on these there is no
text at all. -/
structure Ignored (quiet : Prop) (before after : TaskManager σ × Exchange σ) : Prop where
  tasks : after.1 = before.1
  requests : after.2.requests = before.2.requests
  direct : after.2.shown Event.direct? = before.2.shown Event.direct?
  silent : quiet → after.2.deliveries = before.2.deliveries

/-- Running a chunk sends nothing directly. -/
theorem add_chunk_direct (manager : TaskManager σ) (task : ChunkTask σ) (exchange : Exchange σ) :
    (manager.add (.chunk task) exchange).2.shown Event.direct? =
      exchange.shown Event.direct? := by
  have skips := Event.direct?_skipsActs
  rw [TaskManager.add_chunk]
  refine (Exchange.pause_shown skips _).trans ?_
  rw [← Exchange.log_shown skips exchange (.runningPriority task.client "binary")]
  generalize exchange.log (.runningPriority task.client "binary") = start
  have called : (start.callConsumer task.consumer task.client task.bytes).2.shown Event.direct? =
      start.shown Event.direct? :=
    (Exchange.run_shown skips _ _).trans
      ((Exchange.record_shown start _).trans (List.append_nil _))
  unfold ChunkTask.run
  split
  · next same =>
      rw [same] at called
      exact called
  · next same =>
      rw [same] at called
      exact (Exchange.log_shown skips _ _).trans called

/-- The scripts of the consumer for a chunk, and the other threads, touch no request. -/
def QuietFor (dispatcher : Dispatcher σ) (client : ClientId) (bytes : Bytes)
    (exchange : Exchange σ) : Prop :=
  (∀ consumer ∈ dispatcher.consumer, (consumer client bytes).IsQuiet) ∧ exchange.OthersQuiet

/-- Dispatching a chunk does nothing for any client. -/
theorem dispatchChunk_ignored (dispatcher : Dispatcher σ) (client : ClientId) (bytes : Bytes)
    (manager : TaskManager σ) (exchange : Exchange σ) :
    Ignored (dispatcher.QuietFor client bytes exchange) (manager, exchange)
      (dispatcher.dispatchChunk client bytes manager exchange) := by
  obtain ⟨after, same, leads⟩ : ∃ after,
      dispatcher.dispatchChunk client bytes manager exchange = (manager, after) ∧
        Exchange.Leads anyKey noHook exchange after :=
    dispatcher.dispatchChunk_leads dispatcher.closesOnly_anyKey client bytes manager exchange
  have requests := leads.requests exchange.othersCloseOnly_anyKey
  refine ⟨by rw [same], by rw [same, requests], ?_, fun quiet => ?_⟩
  · dsimp only [dispatchChunk]
    split
    · exact Exchange.log_shown Event.direct?_skipsActs exchange _
    · exact add_chunk_direct manager _ exchange
  · dsimp only [dispatchChunk]
    split
    · exact exchange.log_deliveries _
    · next consumer consumed =>
        exact (add_chunk_still manager ⟨client, bytes, consumer⟩ (quiet.1 consumer consumed)
          quiet.2).deliveries

/-- The frame of a chunk is dispatched as a chunk. -/
theorem dispatchRequest_chunk {raw : RawRequest} {client : ClientId} {bytes : Bytes}
    (chunk : raw.chunk? = some (client, bytes)) (manager : TaskManager σ)
    (exchange : Exchange σ) :
    dispatcher.dispatchRequest raw manager exchange =
      dispatcher.dispatchChunk client bytes manager exchange := by
  have found := raw.intake_chunk?.trans chunk
  obtain ⟨rest, taken, same⟩ := Option.map_eq_some_iff.mp found
  cases same
  cases intake : raw.intake with
  | chunk other =>
      rw [intake] at taken
      cases taken
      rw [dispatchRequest_eq, intake]
  | rejected id error =>
      rw [intake] at taken
      cases taken
  | request request =>
      rw [intake] at taken
      cases taken

end Dispatcher

namespace Service

open TaskManager (HoldsNoChunk)

variable {dispatcher : Dispatcher σ} {taken : List RawRequest} {since : Key}
  {service : Service σ} {manager : TaskManager σ} {exchange : Exchange σ}

/-! ### Runs -/

/-- The update of the entrypoints consumes no chunk. -/
theorem update_chunks (registry : Registry σ) (exchange : Exchange σ) :
    (registry.update exchange).chunks = exchange.chunks := by
  unfold Registry.update
  induction registry.entrypoints generalizing exchange with
  | nil => rfl
  | cons entrypoint entrypoints ih => exact (ih _).trans (Exchange.callUpdate_chunks ..)

/-- An iteration gives the consumer the chunks that it takes. -/
theorem process_chunks (service : Service σ) (holds : service.manager.HoldsNoChunk)
    (inbox : Inbox) :
    (service.process inbox).exchange.chunks =
        service.exchange.chunks ++ service.dispatcher.consumes inbox.requests ∧
      (service.process inbox).manager.HoldsNoChunk := by
  have greeted : (service.greeted inbox).2.chunks = service.exchange.chunks :=
    service.greeted_of_log inbox (fun exchange => exchange.chunks = service.exchange.chunks)
      (fun exchange notice same => (exchange.log_chunks notice).trans same) rfl
  obtain ⟨given, held⟩ :=
    service.dispatcher.routeAll_chunks holds inbox.requests (service.greeted inbox).2
  obtain ⟨silent, kept⟩ := Dispatcher.leaveAll_chunks held inbox.disconnected _
  obtain ⟨ran, left⟩ := kept.runAll _
  rw [process_eq_handled, handled_eq_leaveAll]
  exact ⟨(update_chunks _ _).trans (ran.trans (silent.trans (given.trans (by rw [greeted])))), left⟩

/-- In every run the chunks that were taken have been given to the consumer, and none is held. -/
theorem Run.chunks (run : Run dispatcher taken since service) :
    service.exchange.chunks = dispatcher.consumes taken ∧ service.manager.HoldsNoChunk := by
  have polled {taken : List RawRequest} {since : Key} {service : Service σ}
      (run : Run dispatcher taken since service)
      (ih : service.exchange.chunks = dispatcher.consumes taken ∧ service.manager.HoldsNoChunk) :
      service.poll.exchange.chunks = dispatcher.consumes (taken ++ service.inbox.requests) ∧
        service.poll.manager.HoldsNoChunk := by
    obtain ⟨given, left⟩ := process_chunks { service with inbox := .empty } ih.2
      service.inbox
    refine ⟨given.trans ?_, left⟩
    rw [Dispatcher.consumes_append, ← ih.1, ← run.dispatcher_eq]
  induction run using Run.induction with
  | create state senders others =>
      refine ⟨?_, TaskManager.holdsNoChunk_empty⟩
      simp [Service.create, Exchange.start, Exchange.chunks, Exchange.shown, Dispatcher.consumes]
  | notify arrival _ ih => exact ⟨(Exchange.log_chunks ..).trans ih.1, ih.2⟩
  | act act _ ih => exact ⟨(Exchange.perform_chunks ..).trans ih.1, ih.2⟩
  | poll run ih => exact polled run ih
  | shutdown _ ih => exact ⟨(Exchange.log_chunks ..).trans ih.1, TaskManager.holdsNoChunk_empty⟩

/-- No chunk waits in the manager when a frame is dispatched. -/
theorem AtFrame.holdsNoChunk (reached : AtFrame dispatcher manager exchange) :
    manager.HoldsNoChunk := by
  induction reached with
  | run run => exact run.chunks.2
  | log notice _ ih => exact ih
  | frame raw _ ih => exact (dispatcher.dispatchRequest_chunks ih raw _).2

/-- No request to cancel is refused as chunks are. -/
theorem AtFrame.cancel_ne (reached : AtFrame dispatcher manager exchange) (client : ClientId)
    (id : Rpc.Id) (later : Exchange σ) :
    (manager.cancel client id later).1 ≠ .error ChunkTask.cancelError := by
  intro refused
  obtain ⟨external, member⟩ := (reached.holdsNoChunk.cancel client id later).2.2 refused
  -- a service holds tasks of requests only
  obtain ⟨⟨since, keeps⟩, -⟩ := reached.keeps
  obtain ⟨queued, pending, rfl, -⟩ := keeps.accounts
  rw [← List.map_append] at member
  obtain ⟨task, -, same⟩ := List.mem_map.mp member
  cases same

/-! ### Steps -/

/-- The frame that a step brings. -/
def Step.frame? : Step σ → Option RawRequest
  | .notify (.request raw) => some raw
  | .notify (.connection _) | .notify (.disconnection _) | .act _ | .poll | .wait | .waitTimeout
  | .shutdown => none

/-- The frames that came: those that an iteration took, and those that wait for the next one. -/
structure Frames where
  taken : List RawRequest
  waiting : List RawRequest

/-- An iteration takes the frames that wait, and a shutdown discards them. -/
def Frames.step (frames : Frames) : Step σ → Frames
  | .notify (.request raw) => { frames with waiting := frames.waiting ++ [raw] }
  | .notify (.connection _) | .notify (.disconnection _) | .act _ => frames
  | .poll | .wait | .waitTimeout => ⟨frames.taken ++ frames.waiting, []⟩
  | .shutdown => { frames with waiting := [] }

def Frames.after (frames : Frames) (steps : List (Step σ)) : Frames :=
  steps.foldl step frames

/-- A step other than a shutdown adds its frame behind those that came before. -/
theorem Frames.step_order (frames : Frames) {step : Step σ} (running : step ≠ .shutdown) :
    (frames.step step).taken ++ (frames.step step).waiting =
      frames.taken ++ frames.waiting ++ step.frame?.toList := by
  rcases step with (_ | _ | _) | _ | _ | _ | _ | _
  case shutdown => exact absurd rfl running
  all_goals simp [Frames.step, Step.frame?]

/-- Without a shutdown each frame is taken or waits, in the order of arrival. -/
theorem Frames.after_order (frames : Frames) {steps : List (Step σ)}
    (running : ∀ step ∈ steps, step ≠ .shutdown) :
    (frames.after steps).taken ++ (frames.after steps).waiting =
      frames.taken ++ frames.waiting ++ steps.filterMap Step.frame? := by
  induction steps generalizing frames with
  | nil => simp [after]
  | cons step steps ih =>
      obtain ⟨first, rest⟩ := List.forall_mem_cons.mp running
      refine (ih (frames.step step) rest).trans ?_
      rw [frames.step_order first, List.append_assoc]
      cases found : step.frame? <;> simp [found]

/-- A step of the run takes the frames that wait in the inbox. -/
theorem Run.step_frames {frames : Frames} (run : Run dispatcher frames.taken since service)
    (waiting : service.inbox.requests = frames.waiting) (step : Step σ) :
    (∃ later, Run dispatcher (frames.step step).taken later (service.step step)) ∧
      (service.step step).inbox.requests = (frames.step step).waiting := by
  cases step with
  | notify arrival =>
      cases arrival with
      | request raw =>
          exact ⟨⟨_, run.notify _⟩, congrArg (· ++ [raw]) waiting⟩
      | connection client => exact ⟨⟨_, run.notify _⟩, waiting⟩
      | disconnection client => exact ⟨⟨_, run.notify _⟩, waiting⟩
  | act act => exact ⟨⟨_, run.act act⟩, waiting⟩
  | poll => exact ⟨⟨_, waiting ▸ run.poll⟩, rfl⟩
  | wait =>
      cases woken : service.wait? with
      | none =>
          -- nobody is woken only if no frame waits
          have nothing : service.inbox.requests = [] := by
            unfold wait? Inbox.wait? at woken
            split_ifs at woken with empty
            · exact congrArg Inbox.requests (Inbox.isEmpty_iff.mp empty)
            · cases woken
          have same : frames.step (.wait : Step σ) = ⟨frames.taken, []⟩ := by
            simp [Frames.step, ← waiting, nothing]
          rw [same]
          simp only [Service.step, woken, Option.getD_none]
          exact ⟨⟨_, run⟩, nothing⟩
      | some next =>
          simp only [Service.step, woken, Option.getD_some]
          refine ⟨⟨_, waiting ▸ run.wait woken⟩, ?_⟩
          rw [wait?_eq_poll woken]
          rfl
  | waitTimeout =>
      refine ⟨⟨_, waiting ▸ run.waitTimeout⟩, ?_⟩
      simp only [Service.step, waitTimeout_eq_poll]
      rfl
  | shutdown => exact ⟨⟨_, run.shutdown⟩, rfl⟩

/-- The frames that a run takes, and those that wait in its inbox, are those of its steps. -/
theorem Run.after_frames {frames : Frames} (run : Run dispatcher frames.taken since service)
    (waiting : service.inbox.requests = frames.waiting) (steps : List (Step σ)) :
    (∃ later, Run dispatcher (frames.after steps).taken later (service.after steps)) ∧
      (service.after steps).inbox.requests = (frames.after steps).waiting := by
  induction steps generalizing frames since service with
  | nil => exact ⟨⟨_, run⟩, waiting⟩
  | cons step steps ih =>
      obtain ⟨⟨_, run⟩, waiting⟩ := run.step_frames waiting step
      exact ih run waiting

/-- Raw chunks.  After any steps, each frame whose text has no length and that was taken has been
given to the consumer exactly once, in the order of arrival and with its client and the bytes after
the length, whatever the consumer did with those before; without a consumer none is.  Each frame
that came is taken or waits, until a shutdown discards those that wait.  A chunk does nothing for
any client, and without a consumer it leaves a report in the log and nothing else.  At no moment of
a run one of the lists of tasks holds a chunk, and every request to cancel is answered with another
error than the one of chunks, or with success.  The lists of a manager hold no chunk either after
any history of operations with any tasks, so that neither cancelling nor disconnecting can reach one
there: only a task that the application supplies itself can refuse as chunks do. -/
theorem chunks_are_consumed_once (dispatcher : Dispatcher σ) (state : σ)
    (senders : ClientId → Nat → Option SendFault) (others : List (List (Act σ))) :
    (∀ steps : List (Step σ),
      let service := (Service.create dispatcher
        { Exchange.start state senders with others }).after steps
      let frames := (Frames.mk [] []).after steps
      service.inbox.requests = frames.waiting ∧
        service.exchange.chunks =
          (if dispatcher.consumer.isSome then frames.taken.filterMap RawRequest.chunk? else []) ∧
        ((∀ step ∈ steps, step ≠ .shutdown) →
          frames.taken ++ frames.waiting = steps.filterMap Step.frame?)) ∧
      (∀ raw client bytes, raw.chunk? = some (client, bytes) →
        ∀ (manager : TaskManager σ) (exchange : Exchange σ),
          Dispatcher.Ignored (dispatcher.QuietFor client bytes exchange) (manager, exchange)
              (dispatcher.dispatchRequest raw manager exchange) ∧
            (dispatcher.consumer = none → dispatcher.dispatchRequest raw manager exchange =
              (manager, exchange.log (.chunkDropped client bytes.length)))) ∧
      (∀ manager exchange, AtFrame dispatcher manager exchange →
        (∀ task ∈ manager.queue ++ manager.pending, task.chunk? = none) ∧
          ∀ key request, ∃ left middle outcome, outcome ≠ .error ChunkTask.cancelError ∧
            Dispatcher.cancel key request manager exchange =
              (left, Dispatcher.conclude key outcome middle)) ∧
      ∀ operations,
        let moment := (Moment.start state senders others).after operations
        (∀ task ∈ moment.manager.queue ++ moment.manager.pending, task.chunk? = none) ∧
          ∀ client id,
            (moment.manager.cancel client id moment.exchange).1 = .error ChunkTask.cancelError →
              ∃ external, .external external ∈ moment.manager.queue ++ moment.manager.pending := by
  refine ⟨fun steps => ?_, fun raw client bytes chunk manager exchange => ?_,
    fun manager exchange reached => ⟨?_, fun key request => ?_⟩, fun operations => ?_⟩
  · have start : Run dispatcher (Frames.mk [] []).taken 0
        (.create dispatcher { Exchange.start state senders with others }) :=
      .create state senders others
    obtain ⟨⟨_, run⟩, waiting⟩ := start.after_frames rfl steps
    exact ⟨waiting, run.chunks.1, Frames.after_order ⟨[], []⟩⟩
  · rw [Dispatcher.dispatchRequest_chunk chunk]
    refine ⟨dispatcher.dispatchChunk_ignored client bytes manager exchange, fun unconsumed => ?_⟩
    simp only [Dispatcher.dispatchChunk, unconsumed]
  · have holds := reached.holdsNoChunk
    exact List.forall_mem_append.mpr ⟨holds.queue, holds.pending⟩
  · rw [Dispatcher.cancel_eq]
    cases CancelParams.record.decoder.ofValue request.params with
    | error shape =>
        refine ⟨_, _, .error (.invalidParams shape.message []), ?_, rfl⟩
        simp [ChunkTask.cancelError]
    | ok params =>
        exact ⟨_, _, _, reached.cancel_ne request.client params.id exchange, rfl⟩
  · have holds := (Moment.start state senders others).after_holdsNoChunk
      TaskManager.holdsNoChunk_empty operations
    refine ⟨List.forall_mem_append.mpr ⟨holds.queue, holds.pending⟩, fun client id refused => ?_⟩
    exact (holds.cancel client id _).2.2 refused

end Service

end RpcDispatch
