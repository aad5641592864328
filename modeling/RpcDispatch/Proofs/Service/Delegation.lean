import RpcDispatch.Proofs.Delegate.Neighbour
import RpcDispatch.Proofs.Service.Answers

/-
This file shows that a method that leaves its requests to one job answers each request with the
outcome of its own run, whatever replaces it, cancels it or comes in between.
-/

namespace RpcDispatch

open Exchange (Leads)

variable {σ : Type}

/-! ### Iterations -/

namespace Service

/-- The requests that the next iteration finds cancelled in its queue. -/
def withdrawn (service : Service σ) : List Key :=
  withdrawals ((service.handled service.inbox).1.queue.filterMap Task.request?)

end Service

namespace Delegate.Realm

variable {delegate : Delegate σ} {realm : delegate.Realm} {dispatcher : Dispatcher σ}
  {withdrawn : List Key} {since : Key} {service : Service σ}

/-- The service attends to the requests of a method, and its queue is empty. -/
def Served (realm : delegate.Realm) (withdrawn : List Key) (service : Service σ) : Prop :=
  ∃ pending, service.manager = ⟨[], pending.map .request⟩ ∧
    realm.Attends withdrawn [] pending service.exchange

/-- Handling the events of the inbox keeps the book of the method balanced. -/
theorem Served.handled (served : realm.Served withdrawn service)
    (staffs : realm.Staffs service.dispatcher)
    (keeps : service.dispatcher.Keeps since service.manager service.exchange)
    (stays : service.inbox.disconnected = [])
    (knows : realm.Knows (service.handled service.inbox).2.requests) :
    realm.Attended withdrawn (service.handled service.inbox) := by
  obtain ⟨pending, same, attends⟩ := served
  have attended : realm.Attended withdrawn (service.manager, service.exchange) :=
    ⟨[], pending, same, attends⟩
  have greeted : realm.Attended withdrawn (service.greeted service.inbox) :=
    service.greeted_of_log service.inbox
      (fun exchange => realm.Attended withdrawn (service.manager, exchange))
      (fun _ notice attended => attended.leave (attended.calm.log notice)) attended
  rw [Service.handled_eq_leaveAll, stays] at knows ⊢
  exact greeted.routeAll staffs (Service.greeted_keeps keeps service.inbox) service.inbox.requests
    knows

/-- An iteration serves the requests of the method. -/
theorem Served.poll (served : realm.Served withdrawn service)
    (staffs : realm.Staffs service.dispatcher)
    (keeps : service.dispatcher.Keeps since service.manager service.exchange)
    (stays : service.inbox.disconnected = [])
    (knows : realm.Knows service.poll.exchange.requests) :
    realm.Served (withdrawn ++ service.withdrawn) service.poll := by
  have rest := Service.tail_leads (Service.handled_keeps keeps service.inbox)
    service.dispatcher.closesOnly_anyKey
  rw [service.poll_eq_handled] at knows ⊢
  have known := (rest.requests (Exchange.othersCloseOnly_anyKey _)) ▸ knows
  obtain ⟨queued, pending, same, attends⟩ := served.handled staffs keeps stays known
  obtain ⟨held, ran, later⟩ := attends.runAll
  have queue : service.withdrawn = withdrawals queued := by
    rw [Service.withdrawn, same]
    exact congrArg withdrawals (filterMap_request queued)
  rw [queue]
  refine ⟨held, ?_, ?_⟩
  · dsimp only
    rw [same, ran]
  · dsimp only
    rw [same]
    exact later.update service.dispatcher.registry staffs.others

/-! ### Runs -/

/-- A service with a delegating method after some steps, in which no client left.  The requests that
it found cancelled in its queue are listed. -/
inductive Run (realm : delegate.Realm) (dispatcher : Dispatcher σ) :
    List Key → Service σ → Prop where
  | create (state : σ) (senders : ClientId → Nat → Option SendFault)
      (others : List (List (Act σ))) (clear : delegate.desk state = Desk.clear realm.schedule)
      (calm : realm.Calm { Exchange.start state senders with others }) :
      Run realm dispatcher [] (.create dispatcher { Exchange.start state senders with others })
  | notify {withdrawn : List Key} {service : Service σ} (arrival : Arrival)
      (stays : ∀ client, arrival ≠ .disconnection client)
      (run : Run realm dispatcher withdrawn service) :
      Run realm dispatcher withdrawn (service.notify arrival)
  | act {withdrawn : List Key} {service : Service σ} (act : Act σ) (spared : realm.SparedBy act)
      (run : Run realm dispatcher withdrawn service) :
      Run realm dispatcher withdrawn { service with exchange := service.exchange.perform act }
  | poll {withdrawn : List Key} {service : Service σ}
      (run : Run realm dispatcher withdrawn service) :
      Run realm dispatcher (withdrawn ++ service.withdrawn) service.poll
  | wait {withdrawn : List Key} {service next : Service σ}
      (run : Run realm dispatcher withdrawn service) (woken : service.wait? = some next) :
      Run realm dispatcher (withdrawn ++ service.withdrawn) next
  | waitTimeout {withdrawn : List Key} {service : Service σ}
      (run : Run realm dispatcher withdrawn service) :
      Run realm dispatcher (withdrawn ++ service.withdrawn) service.waitTimeout

theorem Run.isRun (run : realm.Run dispatcher withdrawn service) :
    ∃ taken, Service.Run dispatcher taken 0 service := by
  induction run with
  | create state senders others => exact ⟨_, .create state senders others⟩
  | notify arrival _ _ ih =>
      obtain ⟨_, run⟩ := ih
      exact ⟨_, run.notify arrival⟩
  | act act _ _ ih =>
      obtain ⟨_, run⟩ := ih
      exact ⟨_, run.act act⟩
  | poll _ ih =>
      obtain ⟨_, run⟩ := ih
      exact ⟨_, run.poll⟩
  | wait _ woken ih =>
      obtain ⟨_, run⟩ := ih
      exact ⟨_, run.wait woken⟩
  | waitTimeout _ ih =>
      obtain ⟨_, run⟩ := ih
      exact ⟨_, run.waitTimeout⟩

/-- Nobody is reported to have left. -/
theorem Run.stays (run : realm.Run dispatcher withdrawn service) :
    service.inbox.disconnected = [] := by
  have polled (service : Service σ) : service.poll.inbox.disconnected = [] := by
    rw [service.poll_eq_handled]
    rfl
  induction run with
  | create => rfl
  | notify arrival stays _ ih =>
      cases arrival with
      | connection client => exact ih
      | request raw => exact ih
      | disconnection client => exact absurd rfl (stays client)
  | act _ _ _ ih => exact ih
  | poll => exact polled _
  | wait _ woken =>
      rw [Service.wait?_eq_poll woken]
      exact polled _
  | waitTimeout =>
      rw [Service.waitTimeout_eq_poll]
      exact polled _

/-- Every run serves the requests of the method. -/
theorem Run.served (staffs : realm.Staffs dispatcher)
    (run : realm.Run dispatcher withdrawn service)
    (knows : realm.Knows service.exchange.requests) : realm.Served withdrawn service := by
  have iteration {withdrawn : List Key} {service : Service σ}
      (run : realm.Run dispatcher withdrawn service)
      (ih : realm.Knows service.exchange.requests → realm.Served withdrawn service)
      (knows : realm.Knows service.poll.exchange.requests) :
      realm.Served (withdrawn ++ service.withdrawn) service.poll := by
    obtain ⟨taken, plain⟩ := run.isRun
    have emptied : ({ service with inbox := .empty } : Service σ).dispatcher.Keeps 0
        service.manager service.exchange := plain.keeps
    have grown : service.poll.exchange.requests = _ :=
      (Service.process_grows emptied service.inbox).2
    exact (ih (grown ▸ knows).before).poll (plain.dispatcher_eq ▸ staffs) plain.keeps run.stays
      knows
  induction run with
  | create state senders others clear calm =>
      refine ⟨[], rfl, calm, .nil, nofun, balanced_start clear (fun key => ?_) (fun key => ?_) rfl⟩
      · simp [book, Service.create, Exchange.start, Exchange.channel?]
      · simp [book, Service.create, Exchange.start, Exchange.answersTo, Exchange.deliveries]
  | notify arrival _ _ ih =>
      obtain ⟨pending, same, attends⟩ := ih knows
      exact ⟨pending, same, attends.leave (attends.calm.log arrival.notice)⟩
  | @act _ service act spared _ ih =>
      have leads : Leads anyKey noHook service.exchange (service.exchange.perform act) :=
        (Leads.refl _).perform act fun _ _ => trivial
      have known := leads.requests service.exchange.othersCloseOnly_anyKey ▸ knows
      obtain ⟨pending, same, attends⟩ := ih known
      exact ⟨pending, same, attends.leave (attends.calm.perform spared)⟩
  | poll run ih => exact iteration run ih knows
  | wait run woken ih =>
      rw [Service.wait?_eq_poll woken] at knows ⊢
      exact iteration run ih knows
  | waitTimeout run ih =>
      rw [Service.waitTimeout_eq_poll] at knows ⊢
      exact iteration run ih knows

end Delegate.Realm

/-! ### What the runs of a method say of its requests -/

/-- The text with which a request is answered when its run has ended. -/
def Delegate.answerText (delegate : Delegate σ) (key : Key) (request : Request)
    (cancelled : Bool) (ending : Ending) : String :=
  if cancelled then Rpc.errorText request.id .taskCancelled
  else
    match ending with
    | .success => resultText (delegate.result key request) request.id
    | .failure error => Rpc.errorText request.id error
    | .panic text => Rpc.errorText request.id (.internal ("Task body panicked: " ++ text))

theorem Delegate.textOf_outcome (delegate : Delegate σ) (key : Key) (request : Request)
    (cancelled : Bool) (ending : Ending) :
    delegate.textOf key request (ending.outcome cancelled) =
      some (delegate.answerText key request cancelled ending) := by
  unfold answerText Ending.outcome
  cases cancelled with
  | true => rfl
  | false => cases ending <;> rfl

/-- A request with its run.  It has one answer, the outcome of the run, once the run has ended; a
notification has none. -/
structure Case.Agrees (delegate : Delegate σ) (exchange : Exchange σ) (case : Case) : Prop where
  request : exchange.requests[case.key]? = some case.request
  method : case.request.method = delegate.method
  body : case.round.body = delegate.body case.key case.request
  asked : case.round.isAsked = true ↔ .cancel case.key ∈ exchange.callsOf delegate.method
  running : case.round.ending = none → exchange.answersTo case.key = []
  notification : case.request.isNotification = true → exchange.answersTo case.key = []
  answered : ∀ ending, case.round.ending = some ending → case.request.isNotification = false →
    exchange.answersTo case.key = [⟨.answer case.key, case.request.client,
      delegate.answerText case.key case.request case.round.cancelled ending⟩]

namespace Delegate.Realm

variable {delegate : Delegate σ} {realm : delegate.Realm} {exchange : Exchange σ}

/-- The answers of a case are those of the exchange. -/
theorem agrees_of_balanced (knows : realm.Knows exchange.requests) {withdrawn : List Key}
    {queued pending : List (RequestTask σ)} {closed : List Case} {last : Option Case}
    (serves : Serves delegate (realm.book exchange) closed last)
    (tally : Tally delegate realm.mine withdrawn queued pending (realm.book exchange)
      ((closed ++ last.toList).map Case.label)) :
    ∀ case ∈ closed ++ last.toList, case.Agrees delegate exchange := by
  intro case member
  have listed := serves.channel case member
  have own : realm.mine case.key = true := by
    by_contra other
    rw [(book_foreign (eq_false_of_ne_true other)).1] at listed
    cases listed
  have answers := serves.answers case member
  rw [book_channels own] at listed
  rw [book_answers own, Case.answers] at answers
  have request : exchange.requests[case.key]? = some case.request := by
    rw [Exchange.requests, List.getElem?_map]
    exact congrArg (Option.map Channel.request) listed
  refine ⟨request, (knows _ _ request).mp own, serves.body case member, ?_, fun open' => ?_,
    fun silent => ?_, fun ending ended expected => ?_⟩
  · constructor
    · intro stopped
      have label : (case.key, case.request, true) ∈ (closed ++ last.toList).map Case.label :=
        stopped ▸ List.mem_map_of_mem member
      exact (tally.asked case.key).mpr ⟨_, label⟩
    · intro called
      obtain ⟨_, label⟩ := (tally.asked case.key).mp called
      obtain ⟨other, held, same⟩ := List.mem_map.mp label
      have key : other.key = case.key := congrArg Prod.fst same
      rw [← List.inj_on_of_nodup_map serves.once held member key]
      exact congrArg (·.2.2) same
  · rw [answers, Case.text?, Job.Round.outcome?, open']
    simp
  · rw [answers, Case.text?, if_pos silent]
    rfl
  · rw [answers, Case.text?, expected, Job.Round.outcome?, ended]
    simp [delegate.textOf_outcome]

end Delegate.Realm

namespace Service

/-- A method that leaves its requests to one job answers each with the outcome of its own run.  Its
request hooks are called once for each case, and every case but the last has ended, because it was
collected or because the next one replaced it.  The job went through the rounds of the cases, as its
hooks and the pace of its worker say.  A request has no case if it was cancelled in the queue, and is
answered so. -/
theorem every_run_answers_its_request {delegate : Delegate σ} {realm : delegate.Realm}
    {dispatcher : Dispatcher σ} {withdrawn : List Key} {service : Service σ}
    (staffs : realm.Staffs dispatcher) (run : realm.Run dispatcher withdrawn service)
    (knows : realm.Knows service.exchange.requests) :
    ∃ closed last moves before,
      (service.exchange.callsOf delegate.method).filterMap Hook.requested? =
        (closed ++ Option.toList last).map Case.key ∧
      ((closed ++ Option.toList last).map Case.key).Nodup ∧
      Chronicle realm.schedule (realm.book service.exchange) (closed ++ Option.toList last)
        moves before ∧
      (∀ case ∈ closed ++ Option.toList last, case.Agrees delegate service.exchange) ∧
      (∀ case ∈ closed, case.round.Sound True) ∧
      (∀ case, last = some case → case.round.Sound False ∧
        (delegate.desk service.exchange.state).job.isRunning = case.round.ending.isNone) ∧
      ∀ key request, service.exchange.requests[key]? = some request →
        request.method = delegate.method →
        if key ∈ withdrawn then
          .request key ∉ service.exchange.callsOf delegate.method ∧
            service.exchange.answersTo key =
              [⟨.answer key, request.client, Rpc.errorText request.id .taskCancelled⟩]
        else ∃ case ∈ closed ++ Option.toList last, case.key = key := by
  obtain ⟨pending, _, attends⟩ := run.served staffs knows
  obtain ⟨closed, last, moves, before, serves, tally, chronicle⟩ := attends.balanced
  have called : (service.exchange.callsOf delegate.method).filterMap Hook.requested? =
      (closed ++ last.toList).map Case.key := by
    rw [← Case.labels_keys]
    exact tally.called
  refine ⟨closed, last, moves, before, called, serves.once, chronicle,
    realm.agrees_of_balanced knows serves tally, serves.sound,
    fun case same => ⟨(serves.fits case same).sound False.elim, (serves.fits case same).isRunning⟩,
    fun key request found method => ?_⟩
  have own := (knows key request found).mpr method
  have enrolled : ((realm.book service.exchange).channels key).map Channel.request =
      some request := by
    rw [Delegate.Realm.book_channels own, Exchange.channel?, ← List.getElem?_map]
    exact found
  split_ifs with gone
  · obtain ⟨new, owner, same, answers⟩ := tally.gone key gone own
    rw [enrolled] at same
    cases same
    rw [Delegate.Realm.book_answers own] at answers
    refine ⟨fun started => new ?_, answers⟩
    rw [Case.labels_keys, ← called, List.mem_filterMap]
    exact ⟨_, started, rfl⟩
  · obtain ⟨channel, listed, _⟩ := Option.map_eq_some_iff.mp enrolled
    rcases tally.complete key channel listed with ⟨_, none, _⟩ | started | old
    · cases none
    · rw [Case.labels_keys] at started
      exact List.mem_map.mp started
    · exact absurd old gone

/-- A method whose job waits at a gate. -/
def renderDelegate : Delegate (Desk × Desk) where
  method := "render"
  desk := Prod.fst
  place := fun desk state => (desk, state.2)
  desk_place := fun _ _ => rfl
  body := fun _ _ => .gate fun _ => .finish .success
  result := fun _ request => .ok request.params

/-- Another such method, with a desk of its own. -/
def traceDelegate : Delegate (Desk × Desk) :=
  { renderDelegate with
    method := "trace"
    desk := Prod.snd
    place := fun desk state => (state.1, desk)
    desk_place := fun _ _ => rfl }

/-- All requests but the third and the last are for the first method.  Its job is let through its
gate after its owner has turned to it for the third time. -/
def renderRealm : renderDelegate.Realm :=
  renderDelegate.beside traceDelegate (fun key => key != 2 && key != 4) [[], [], [.release]]
    fun _ _ => rfl

def renderDispatcher : Dispatcher (Desk × Desk) :=
  ⟨⟨builtinMethods, [renderDelegate.entrypoint, traceDelegate.entrypoint]⟩, none⟩

/-- The job of the other method is let through its gate at once. -/
def renderDesks : Desk × Desk :=
  (Desk.clear renderRealm.schedule, Desk.clear [[.release]])

def renderFrame (message : Rpc.Message) : RawRequest :=
  ⟨⟨1⟩, message.text.toUTF8.toList, .text⟩

/-- Three requests, of which the second one is cancelled in the queue, and one for the other
method. -/
def renderStart : Service (Desk × Desk) :=
  let start : Service (Desk × Desk) := .create renderDispatcher
    { Exchange.start renderDesks fun _ _ => none with others := [] }
  let call (method : String) (id : Int) : Arrival :=
    .request (renderFrame (.request method .null (.integer id)))
  let cancel : Arrival :=
    .request (renderFrame (.request "cancel" (.object [("id", .integer 2)]) (.integer 3)))
  ((((start.notify (call "render" 1)).notify (call "render" 2)).notify cancel).notify
    (call "render" 4)).notify (call "trace" 5)

def renderService : Service (Desk × Desk) :=
  renderStart.poll.poll

/-- The second request was not started.  The others have runs of their own, of which the first one was
replaced and the last one has succeeded, as has the run of the other method beside them. -/
theorem every_run_answers_its_request_render :
    (.request 1 ∉ renderService.exchange.callsOf "render" ∧
      renderService.exchange.answersTo 1 =
        [⟨.answer 1, ⟨1⟩, Rpc.errorText (.integer 2) .taskCancelled⟩]) ∧
      ((∃ case : Case, case.key = 0 ∧ case.Agrees renderDelegate renderService.exchange) ∧
        renderService.exchange.answersTo 0 =
          [⟨.answer 0, ⟨1⟩, Rpc.errorText (.integer 1) .taskCancelled⟩]) ∧
      ((∃ case : Case, case.key = 3 ∧ case.Agrees renderDelegate renderService.exchange) ∧
        renderService.exchange.answersTo 3 =
          [⟨.answer 3, ⟨1⟩, Rpc.replyText (.integer 4) .null⟩]) ∧
      renderService.exchange.answersTo 4 =
        [⟨.answer 4, ⟨1⟩, Rpc.replyText (.integer 5) .null⟩] := by
  have staffs : renderRealm.Staffs renderDispatcher := by
    refine Delegate.staffs_beside (fun _ _ => rfl) (List.find?_cons_of_pos (by decide)) (by decide)
      (by decide) (fun entrypoint member => ?_) rfl
    simpa [renderDispatcher] using member
  have run : renderRealm.Run renderDispatcher [1] renderService := by
    have valid : renderRealm.valid renderDesks := by
      rintro run (active | next)
      · cases active
      · cases next
    have created : renderRealm.Run renderDispatcher [] (.create renderDispatcher
        { Exchange.start renderDesks fun _ _ => none with others := [] }) :=
      .create _ _ _ rfl ⟨valid, nofun⟩
    have notified : renderRealm.Run renderDispatcher [] renderStart :=
      ((((created.notify _ (by simp)).notify _ (by simp)).notify _ (by simp)).notify _
        (by simp)).notify _ (by simp)
    have polled : renderRealm.Run renderDispatcher _ renderService := notified.poll.poll
    have once : [] ++ renderStart.withdrawn ++ renderStart.poll.withdrawn = [1] := by
      decide +kernel
    exact once ▸ polled
  have knows : renderRealm.Knows renderService.exchange.requests := by
    have all : (renderService.exchange.requests.zipIdx.all fun entry =>
        renderRealm.mine entry.2 == (entry.1.method == "render")) = true := by decide +kernel
    intro key request found
    have member : (request, key) ∈ renderService.exchange.requests.zipIdx :=
      List.mem_zipIdx_iff_getElem?.mpr found
    have same := beq_iff_eq.mp (List.all_eq_true.mp all _ member)
    rw [same]
    exact beq_iff_eq
  obtain ⟨closed, last, _, _, _, _, _, agrees, _, _, settled⟩ :=
    every_run_answers_its_request staffs run knows
  have started (key : Key) (listed : (renderService.exchange.requests[key]?.any
      (·.method == "render")) = true) (waited : key ∉ [1]) :
      ∃ case : Case, case.key = key ∧ case.Agrees renderDelegate renderService.exchange := by
    obtain ⟨request, found, method⟩ := (Option.any_eq_true ..).mp listed
    have result := settled key request found (beq_iff_eq.mp method)
    rw [if_neg waited] at result
    obtain ⟨case, member, same⟩ := result
    exact ⟨case, same, agrees case member⟩
  refine ⟨?_, ⟨started 0 (by decide +kernel) (by decide), by decide +kernel⟩,
    ⟨started 3 (by decide +kernel) (by decide), by decide +kernel⟩, by decide +kernel⟩
  have listed : (renderService.exchange.requests[1]?.any fun request =>
      request.method == "render" && request.client == ⟨1⟩ && request.id == .integer 2) = true := by
    decide +kernel
  obtain ⟨request, found, facts⟩ := (Option.any_eq_true ..).mp listed
  simp only [Bool.and_eq_true, beq_iff_eq] at facts
  have result := settled 1 request found facts.1.1
  rwa [if_pos (by decide), facts.1.2, facts.2] at result

end Service

end RpcDispatch
