import RpcDispatch.Proofs.Dispatch.Faults
import RpcDispatch.Proofs.Service.Answers
import RpcDispatch.Proofs.Service.Steps

/-
This file shows that faults of senders never feed back.  Whatever becomes of the texts, a service
attempts the same ones, calls the same hooks and passes through the same states.
-/

namespace RpcDispatch

open Exchange (Matches Agree)

variable {σ : Type}

/-- Updating the entrypoints does the same, whether or not texts arrive. -/
theorem Registry.update_matches (registry : Registry σ) {first second : Exchange σ}
    (alike : first.Matches second) : (registry.update first).Matches (registry.update second) := by
  unfold Registry.update
  induction registry.entrypoints generalizing first second with
  | nil => exact alike
  | cons entrypoint entrypoints ih => exact ih (alike.callUpdate entrypoint)

/-! ### The states within an iteration -/

/-- The states after each event that is handled. -/
def Dispatcher.stages (dispatcher : Dispatcher σ) :
    List Arrival → TaskManager σ × Exchange σ → List (TaskManager σ × Exchange σ)
  | [], _ => []
  | arrival :: arrivals, state =>
    dispatcher.handle state arrival :: dispatcher.stages arrivals (dispatcher.handle state arrival)

/-- The states after each queued task that has run. -/
def TaskManager.stages :
    (queue pending : List (Task σ)) → Exchange σ → List (TaskManager σ × Exchange σ)
  | [], _, _ => []
  | task :: queue, pending, exchange =>
    let ran := task.run exchange
    let kept := retain pending ran.1 ran.2
    (⟨queue, kept.1⟩, kept.2) :: stages queue kept.1 kept.2

namespace Service

/-- The states that an iteration passes through: after each event that is handled, after each task
that is run, and when the queue has been drained. -/
def stages (service : Service σ) (taken : Inbox) : List (TaskManager σ × Exchange σ) :=
  let state := service.handled taken
  service.dispatcher.stages taken.order (service.begun taken) ++
    (TaskManager.stages state.1.queue state.1.pending state.2 ++ [state.1.runAll state.2])

end Service

/-- The same tasks are there after each event. -/
theorem Dispatcher.stages_agree (dispatcher : Dispatcher σ) (arrivals : List Arrival)
    {left right : TaskManager σ × Exchange σ} (agree : Agree left right) :
    List.Forall₂ Agree (dispatcher.stages arrivals left) (dispatcher.stages arrivals right) := by
  induction arrivals generalizing left right with
  | nil => exact .nil
  | cons arrival arrivals ih =>
      have next := dispatcher.handle_agrees agree arrival
      exact .cons next (ih next)

/-- The same tasks are there after each task that has run. -/
theorem TaskManager.stages_agree (queue pending : List (Task σ)) {first second : Exchange σ}
    (alike : first.Matches second) :
    List.Forall₂ Agree (stages queue pending first) (stages queue pending second) := by
  induction queue generalizing pending first second with
  | nil => exact .nil
  | cons task queue ih =>
      have ran := runFirst_agrees pending task alike
      constructor
      · exact ⟨congrArg (TaskManager.mk queue) ran.result, ran.exchange⟩
      · rw [← ran.result]
        exact ih _ ran.exchange

namespace Service

/-! ### Steps -/

/-- Two services that differ only in the faults of their senders. -/
structure Parallel (first second : Service σ) : Prop where
  inbox : first.inbox = second.inbox
  dispatcher : first.dispatcher = second.dispatcher
  manager : first.manager = second.manager
  exchange : first.exchange.Matches second.exchange

variable {first second : Service σ}

/-- Parallel services begin an iteration in agreement. -/
theorem Parallel.begun (parallel : first.Parallel second) (taken : Inbox) :
    Agree (first.begun taken) (second.begun taken) := by
  constructor
  · exact parallel.manager
  · unfold Service.begun
    dsimp only
    split_ifs
    · exact parallel.exchange
    · exact parallel.exchange.log _

/-- They handle its events in agreement. -/
theorem Parallel.handled (parallel : first.Parallel second) (taken : Inbox) :
    Agree (first.handled taken) (second.handled taken) := by
  unfold Service.handled
  rw [← parallel.dispatcher]
  exact first.dispatcher.handleAll_agrees (parallel.begun taken) taken.order

/-- They pass through the same states in it. -/
theorem Parallel.stages (parallel : first.Parallel second) (taken : Inbox) :
    List.Forall₂ Agree (first.stages taken) (second.stages taken) := by
  have same := parallel.handled taken
  unfold Service.stages
  dsimp only
  rw [← parallel.dispatcher, ← same.result]
  exact List.rel_append (first.dispatcher.stages_agree taken.order (parallel.begun taken))
    (List.rel_append (TaskManager.stages_agree _ _ same.exchange)
      (.cons (TaskManager.runAll_agrees _ same.exchange) .nil))

/-- They are parallel after it. -/
theorem Parallel.process (parallel : first.Parallel second) (taken : Inbox) :
    (first.process taken).Parallel (second.process taken) := by
  have same := parallel.handled taken
  have ran := TaskManager.runAll_agrees (first.handled taken).1 same.exchange
  rw [first.process_eq_handled, second.process_eq_handled]
  dsimp only
  rw [← same.result, ← parallel.dispatcher]
  exact ⟨parallel.inbox, rfl, ran.result,
    first.dispatcher.registry.update_matches ran.exchange⟩

theorem Parallel.poll (parallel : first.Parallel second) : first.poll.Parallel second.poll := by
  have emptied : Parallel { first with inbox := .empty } { second with inbox := .empty } :=
    { parallel with inbox := rfl }
  show Parallel (Service.process _ first.inbox) (Service.process _ second.inbox)
  rw [← parallel.inbox]
  exact emptied.process first.inbox

/-- Every step keeps services parallel. -/
theorem Parallel.step (parallel : first.Parallel second) (step : Step σ) :
    (first.step step).Parallel (second.step step) := by
  cases step with
  | notify arrival =>
      exact ⟨congrArg (·.push arrival) parallel.inbox, parallel.dispatcher, parallel.manager,
        parallel.exchange.log _⟩
  | act act => exact { parallel with exchange := parallel.exchange.perform act }
  | poll => exact parallel.poll
  | wait =>
      show (first.wait?.getD first).Parallel (second.wait?.getD second)
      unfold Service.wait? Inbox.wait?
      rw [← parallel.inbox]
      split_ifs
      · exact parallel
      · have emptied : Parallel { first with inbox := .empty } { second with inbox := .empty } :=
          { parallel with inbox := rfl }
        exact emptied.process first.inbox
  | waitTimeout =>
      show first.waitTimeout.Parallel second.waitTimeout
      rw [waitTimeout_eq_poll, waitTimeout_eq_poll]
      exact parallel.poll
  | shutdown =>
      refine ⟨rfl, parallel.dispatcher, rfl, ?_⟩
      show Matches (first.exchange.log (.shuttingDown first.manager.size)) (second.exchange.log _)
      rw [parallel.manager]
      exact parallel.exchange.log _

/-- So does any list of steps. -/
theorem Parallel.after (parallel : first.Parallel second) (steps : List (Step σ)) :
    (first.after steps).Parallel (second.after steps) := by
  induction steps generalizing first second with
  | nil => exact parallel
  | cons step steps ih => exact ih (parallel.step step)

/-- What two runs of a service have in common when only the fate of their texts differs. -/
structure SameButFaults (first second : Service σ) : Prop where
  inbox : first.inbox = second.inbox
  /-- The same tasks are queued and pending, with the same flags. -/
  manager : first.manager = second.manager
  /-- The same requests are answered and closed. -/
  exchange : first.exchange.Matches second.exchange
  /-- The same texts were attempted for the same clients. -/
  texts : first.exchange.deliveries = second.exchange.deliveries
  /-- The same hooks and consumers were called. -/
  invocations : first.exchange.invocations = second.exchange.invocations
  /-- The next iteration passes through the same states, whatever it takes. -/
  stages : ∀ taken, List.Forall₂ Agree (first.stages taken) (second.stages taken)
  /-- Whether or not it arrived, an answer was attempted once for a request that is answered, and
  never for any other. -/
  once : ∀ key, (first.exchange.answersTo key).length =
    if first.exchange.isAnswered key then 1 else 0

/-- The faults of senders never feed back.  Two runs with the same steps and any two assignments of
faults have everything else in common. -/
theorem faults_never_feed_back (dispatcher : Dispatcher σ) (state : σ)
    (others : List (List (Act σ))) (left right : ClientId → Nat → Option SendFault)
    (steps : List (Step σ)) :
    SameButFaults
      ((create dispatcher { Exchange.start state left with others }).after steps)
      ((create dispatcher { Exchange.start state right with others }).after steps) := by
  have start : Parallel (create dispatcher { Exchange.start state left with others })
      (create dispatcher { Exchange.start state right with others }) :=
    ⟨rfl, rfl, rfl, ⟨rfl, rfl, rfl, rfl, rfl, rfl⟩⟩
  have parallel := start.after steps
  obtain ⟨_, _, run⟩ := (Run.create state left others).after steps
  exact ⟨parallel.inbox, parallel.manager, parallel.exchange, parallel.exchange.deliveries,
    parallel.exchange.invocations, parallel.stages, run.accurate.1.counted⟩

end Service

end RpcDispatch
