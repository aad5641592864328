import RpcDispatch.Proofs.Dispatch.Registry
import RpcDispatch.Proofs.Dispatch.Visible
import RpcDispatch.Proofs.Service.Answers
import RpcDispatch.Proofs.Service.Batching
import RpcDispatch.Proofs.Service.Steps

/-
This file shows in which order the effects of an iteration come: what is done at once for each
frame, then the hooks for the clients that have left, then the queue, and the updates last.
-/

namespace RpcDispatch

open Exchange (Shows Hides Leads)

variable {σ : Type} {dispatcher : Dispatcher σ} {since : Key}

/-! ### Tasks whose clients have left -/

theorem RequestTask.leaveAny_key (clients : List ClientId) (task : RequestTask σ) :
    (task.leaveAny clients).key = task.key := by
  unfold leaveAny
  split_ifs <;> rfl

theorem RequestTask.Waits.leaveAny {task : RequestTask σ} {exchange : Exchange σ}
    (waits : task.Waits exchange) (clients : List ClientId) :
    (task.leaveAny clients).Waits exchange := by
  unfold RequestTask.leaveAny
  split_ifs
  · exact ⟨waits.own, waits.enrolled, waits.idle, waits.unanswered, waits.expected⟩
  · exact waits

/-- Once all frames have been taken, the clients leave, the queue is run and the entrypoints are
updated. -/
theorem Dispatcher.Orderly.finish {manager : TaskManager σ} {exchange : Exchange σ}
    (orderly : dispatcher.Orderly since manager exchange) (own : dispatcher.AnswersOwn)
    (clients : List ClientId) :
    let left := leaveAll clients (manager, exchange)
    let after := dispatcher.registry.update (left.1.runAll left.2).2
    ∃ (queued pending : List (RequestTask σ)) (ran : List (List Visible)),
      manager = ⟨queued.map .request, pending.map .request⟩ ∧
      List.Forall₂ (fun task shown => task.Runs after shown) (queued.map (·.leaveAny clients)) ran ∧
      Shows anyKey exchange after
        (departures exchange clients queued pending ++ ran.flatten ++
          dispatcher.registry.updates) := by
  intro left after
  obtain ⟨queued, pending, rfl, tasks, waits, once⟩ := orderly.lists own
  obtain ⟨leaving, rest, lists⟩ :=
    leaveAll_shows exchange clients queued pending tasks orderly.silent fun _ => rfl
  have leads := orderly.keeps.leaveAll_leads dispatcher.closesOnly_anyKey clients
    fun _ _ _ _ => trivial
  have accurate := orderly.accurate.grow leads.grows
  have silent := leaving.silent orderly.silent
  have marked : ∀ task ∈ queued.map (·.leaveAny clients), task.Waits left.2 := by
    intro task member
    obtain ⟨old, listed, rfl⟩ := List.mem_map.mp member
    exact ((waits old listed).shows leaving id).leaveAny clients
  have keys : (queued.map (·.leaveAny clients)).map (·.key) = queued.map (·.key) := by
    rw [List.map_map]
    exact List.map_congr_left fun task _ => task.leaveAny_key clients
  obtain ⟨ran, each, running⟩ :=
    TaskManager.runAll_shows rest silent accurate marked (keys.symm ▸ once)
  have same : left.1 = ⟨(queued.map (·.leaveAny clients)).map .request, rest.map .request⟩ := lists
  rw [← same] at each running
  have updating := dispatcher.registry.update_shows _ own.entrypoints (running.silent silent)
  refine ⟨queued, pending, ran, rfl, each.imp fun _ _ runs => runs.mono updating.closed, ?_⟩
  have first : Shows anyKey exchange left.2 _ := leaving.widen fun _ => False.elim
  exact (first.trans running).trans (updating.widen fun _ => False.elim)

namespace Service

variable {service : Service σ} {frames : List RawRequest}

/-- Between iterations no task is queued. -/
theorem Run.idle (run : Run dispatcher frames since service) : service.manager.queue = [] := by
  induction run using Run.induction with
  | create state senders others => rfl
  | notify arrival _ ih => exact ih
  | act act _ ih => exact ih
  | poll _ _ => exact process_queue _ _
  | shutdown _ _ => rfl

/-! ### The course of an iteration -/

/-- Nothing happens before the first frame. -/
theorem greeted_orderly (orderly : dispatcher.Orderly since service.manager service.exchange)
    (taken : Inbox) :
    dispatcher.Orderly since (service.greeted taken).1 (service.greeted taken).2 ∧
      Hides service.exchange (service.greeted taken).2 ∧
      (service.greeted taken).2.channels = service.exchange.channels :=
  service.greeted_of_log taken (fun exchange =>
      dispatcher.Orderly since service.manager exchange ∧ Hides service.exchange exchange ∧
        exchange.channels = service.exchange.channels)
    (fun _ notice ⟨orderly, hides, same⟩ => ⟨orderly.log notice, hides.log notice, same⟩)
    ⟨orderly, .refl _, rfl⟩

/-- What can be seen of an iteration, apart from the hooks for leaving clients and the updates, and
the tasks that it holds when all frames have been taken. -/
structure Course (σ : Type) where
  direct : List (List Visible)
  queued : List (RequestTask σ)
  pending : List (RequestTask σ)
  ran : List (List Visible)

/-- An iteration takes a course.  The frames are handled at once and in order, those tasks that have
to wait line up, and each is run as it then stands. -/
structure Course.Of (course : Course σ) (service : Service σ) (taken : Inbox) : Prop where
  direct : List.Forall₂ (fun frame shown => service.dispatcher.Handles
    (service.process taken).exchange frame.1 frame.2.client frame.2.intake shown)
    (numbered service.exchange.channels.length taken.requests) course.direct
  held : (service.routed taken).1 = ⟨course.queued.map .request, course.pending.map .request⟩
  lined : course.queued.map (·.unmarked) =
    service.dispatcher.lineup service.exchange.channels.length taken.requests
  ran : List.Forall₂ (fun task shown => task.Runs (service.process taken).exchange shown)
    (course.queued.map (·.leaveAny taken.disconnected)) course.ran
  visible : (service.process taken).exchange.visible =
    service.exchange.visible ++ course.direct.flatten ++
      Dispatcher.departures (service.routed taken).2 taken.disconnected course.queued
        course.pending ++
      course.ran.flatten ++ service.dispatcher.registry.updates
  queue : (service.process taken).manager.queue = []

/-- Every iteration takes a course. -/
theorem process_course (orderly : service.dispatcher.Orderly since service.manager service.exchange)
    (own : service.dispatcher.AnswersOwn) (idle : service.manager.queue = []) (taken : Inbox) :
    ∃ course : Course σ, course.Of service taken := by
  obtain ⟨greeted, entered, channels⟩ := greeted_orderly orderly taken
  have none : (service.greeted taken).1.lined = [] := by
    show service.manager.lined = []
    rw [TaskManager.lined, idle]
    rfl
  obtain ⟨later, lined, direct, each, taking⟩ := greeted.routeAll own taken.requests
  have same : service.dispatcher.routeAll taken.requests
      ((service.greeted taken).1, (service.greeted taken).2) = service.routed taken := rfl
  rw [same] at later lined taking each
  rw [channels] at lined each
  rw [none, List.nil_append] at lined
  obtain ⟨queued, pending, ran, held, runs, ending⟩ := later.finish own taken.disconnected
  have handled : Dispatcher.leaveAll taken.disconnected
      ((service.routed taken).1, (service.routed taken).2) = service.handled taken :=
    (service.handled_eq_leaveAll taken).symm
  rw [handled] at runs ending
  have process : (service.process taken).exchange = service.dispatcher.registry.update
      ((service.handled taken).1.runAll (service.handled taken).2).2 := by
    rw [process_eq_handled]
  rw [← process] at runs ending
  refine ⟨⟨direct, queued, pending, ran⟩, ?_, held, ?_, runs, ?_, process_queue service taken⟩
  · exact each.imp fun _ _ handles => handles.mono ending.closed
  · rw [← lined, held, lined_request]
  · rw [ending.visible, taking.visible, entered.visible]
    simp only [List.append_assoc, List.append_nil]

/-- An iteration without events shows the updates alone. -/
theorem Course.Of.of_empty {course : Course σ} (same : course.Of service .empty) :
    (service.process .empty).exchange.visible =
      service.exchange.visible ++ service.dispatcher.registry.updates := by
  obtain ⟨direct, queued, pending, ran⟩ := course
  obtain ⟨each, _, lined, runs, visible, _⟩ := same
  obtain rfl : direct = [] := List.forall₂_nil_left_iff.mp each
  obtain rfl : queued = [] := List.map_eq_nil_iff.mp lined
  obtain rfl : ran = [] := List.forall₂_nil_left_iff.mp runs
  rw [visible]
  simp [Inbox.empty, Dispatcher.departures]

/-- The effects of an iteration come in order, whatever was taken and wherever it started.  What is
done at once for the frames can be seen in the order of their arrival.  Then the clients leave, in
their order, and the hooks of their tasks are called.  Then the queue is run, and at last each
registered entrypoint has its update, in the order of the methods. -/
theorem effects_in_order {reserved : List String} {entrypoints : List (Entrypoint σ)}
    (run : Run dispatcher frames since service) (own : dispatcher.AnswersOwn)
    (silent : service.exchange.OthersSilent)
    (built : (Registry.empty reserved).addAll entrypoints = .ok dispatcher.registry)
    (taken : Inbox) :
    (∃ course : Course σ, course.Of service taken) ∧
      dispatcher.registry.entrypoints.Perm entrypoints ∧
      Registry.IsSorted dispatcher.registry.entrypoints ∧
      (service.process .empty).exchange.visible =
        service.exchange.visible ++ dispatcher.registry.updates := by
  obtain rfl := run.dispatcher_eq
  have idle := run.idle
  have orderly : service.dispatcher.Orderly since service.manager service.exchange := by
    refine ⟨run.keeps, run.accurate.1, silent, ?_⟩
    rw [idle]
    nofun
  obtain ⟨perm, sorted⟩ := Registry.addAll_eq_ok built List.Pairwise.nil
  obtain ⟨course, same⟩ := process_course orderly own idle .empty
  exact ⟨process_course orderly own idle taken, perm, sorted, same.of_empty⟩

/-- A service with one method that waits and one that does not. -/
def busyService : Service Unit :=
  .create ⟨⟨builtinMethods, [echoEntrypoint, promptEntrypoint]⟩, none⟩ (.start () fun _ _ => none)

/-- Two calls that wait, one with priority, a cancellation of the first call and a frame that is no
request, while the client of the second call leaves. -/
def busyInbox : Inbox :=
  let frame (client : Nat) (text : String) : RawRequest := ⟨⟨client⟩, text.toUTF8.toList, .text⟩
  let call (client : Nat) (method : String) (params : Json.Value) (id : Nat) : RawRequest :=
    frame client (Rpc.Message.request method params (.integer id)).text
  { connected := [⟨1⟩, ⟨2⟩]
    requests := [
      call 1 "echo" .null 1,
      call 2 "echo" .null 2,
      call 1 "prompt" (.string "now") 3,
      call 1 "cancel" (.object [("id", .integer 1)]) 4,
      frame 1 "hello"]
    disconnected := [⟨2⟩] }

/-- The cancelled call is answered in its place, after the client of the other one has left. -/
theorem effects_in_order_busy :
    (∃ course : Course Unit, course.Of busyService busyInbox) ∧
      (busyService.process busyInbox).exchange.visible = [
        .call "prompt" (.request 2),
        .text ⟨.answer 2, ⟨1⟩, Rpc.replyText (.integer 3) (.string "now")⟩,
        .text ⟨.answer 3, ⟨1⟩, Rpc.replyText (.integer 4) .null⟩,
        .text ⟨.direct, ⟨1⟩, Rpc.errorText .absent (.parsing
          "Failed to parse JSON request: expected value at line 1 column 1")⟩,
        .call "echo" (.disconnect 1),
        .text ⟨.answer 0, ⟨1⟩, Rpc.errorText (.integer 1) .taskCancelled⟩,
        .call "echo" .update,
        .call "prompt" .update] := by
  have run : Run busyService.dispatcher [] 0 busyService := .create () (fun _ _ => none) []
  have own : busyService.dispatcher.AnswersOwn := by
    constructor
    · intro entrypoint member
      rcases List.mem_cons.mp member with rfl | member
      · exact ⟨fun _ _ => ⟨rfl, trivial⟩, trivial, trivial, trivial⟩
      · obtain rfl := List.mem_singleton.mp member
        exact ⟨fun _ _ => ⟨rfl, trivial⟩, trivial, trivial, trivial⟩
    · nofun
  have built : (Registry.empty builtinMethods).addAll [promptEntrypoint, echoEntrypoint] =
      .ok busyService.dispatcher.registry := rfl
  exact ⟨(effects_in_order run own nofun built busyInbox).1, by decide +kernel⟩

end Service

end RpcDispatch
