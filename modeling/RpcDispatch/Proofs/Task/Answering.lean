import RpcDispatch.Proofs.Exchange.Answers
import RpcDispatch.Proofs.Task.Reach

/-
This file shows that a synchronous task is answered when it runs.  Its request stays open until
then, so the first of its replies and errors is sent, if no other thread was faster.
-/

namespace RpcDispatch

open Exchange (Leads)

variable {σ : Type} {closes : Key → Prop} {hooks : Hook → Prop}

/-- An act answers the request with the given key, by a reply or by an error. -/
def Act.Answers (key : Key) (act : Act σ) : Prop :=
  (∃ result, act = .reply key result) ∨ ∃ error, act = .error key error

theorem Act.Answers.closesOnly {key : Key} {act : Act σ} (answers : act.Answers key) :
    act.ClosesOnly closes := by
  rintro target rfl
  rcases answers with ⟨_, same⟩ | ⟨_, same⟩ <;> cases same

/-- Answering after a turn of the other threads is a stretch without calls. -/
theorem Act.Answers.leads {key : Key} {act : Act σ} (answers : act.Answers key)
    (exchange : Exchange σ) : Leads closes hooks exchange (exchange.pause.perform act) :=
  (Leads.refl exchange).pause.perform act answers.closesOnly

/-- On every path the script answers the request, or it ends with an error or a panic.  When it
looks at the request, it may rely on an answer that it finds there. -/
def Script.Answers (key : Key) (request : Request) : Script σ Outcome → Prop
  | .done outcome => outcome.error? ≠ none
  | .act step next => step.Answers key ∨ next.Answers key request
  | .read next => ∀ state, (next state).Answers key request
  | .look other next => ∀ channel,
      (other = key → ∃ found, channel = some found ∧ found.request = request ∧
        found.closed = false ∧ found.answered = false) →
      (next channel).Answers key request

/-- A request that waits for its answer and has not been closed. -/
structure Exchange.Awaits (exchange : Exchange σ) (key : Key) (request : Request) : Prop where
  enrolled : exchange.requests[key]? = some request
  expected : request.isNotification = false
  opened : exchange.isClosed key = false

namespace Exchange

variable {before after exchange : Exchange σ} {key : Key} {request : Request}

theorem Awaits.leads (awaits : before.Awaits key request) (leads : Leads closes hooks before after)
    (within : before.OthersCloseOnly closes) (barred : ¬ closes key) :
    after.Awaits key request :=
  ⟨by rw [leads.requests within]; exact awaits.enrolled, awaits.expected,
    leads.opened within barred awaits.opened⟩

theorem Awaits.grows (awaits : before.Awaits key request) (grows : Grows closes before after)
    (within : before.OthersCloseOnly closes) (barred : ¬ closes key) :
    after.Awaits key request :=
  ⟨grows.requests within awaits.enrolled, awaits.expected,
    grows.opened within barred awaits.opened⟩

theorem Awaits.channel (awaits : exchange.Awaits key request) :
    ∃ channel, exchange.channel? key = some channel ∧ channel.request = request ∧
      channel.closed = false := by
  have enrolled := awaits.enrolled
  rw [requests_getElem?] at enrolled
  obtain ⟨channel, found, same⟩ := Option.map_eq_some_iff.mp enrolled
  refine ⟨channel, found, same, ?_⟩
  have opened := awaits.opened
  simpa [isClosed, found] using opened

/-- The first answer to an open request is sent to its client. -/
theorem Awaits.deliveries (awaits : exchange.Awaits key request)
    (unanswered : exchange.isAnswered key = false) (encode : Rpc.Id → String) :
    (exchange.answer key encode).deliveries =
      exchange.deliveries ++ [⟨.answer key, request.client, encode request.id⟩] := by
  obtain ⟨channel, found, rfl, opened⟩ := awaits.channel
  have first : channel.answered = false := by simpa [isAnswered, found] using unanswered
  exact exchange.answer_deliveries key encode channel found awaits.expected opened first

/-- A new request is open. -/
theorem enroll_awaits (exchange : Exchange σ) (expected : request.isNotification = false) :
    (exchange.enroll request).2.Awaits exchange.channels.length request where
  enrolled := by simp [← exchange.length_requests]
  expected := expected
  opened := by simp [isClosed, enroll_channel?, Channel.open]

/-- An act that answers an open request leaves it answered. -/
theorem Awaits.perform (awaits : exchange.Awaits key request) {act : Act σ}
    (answers : act.Answers key) : (exchange.perform act).isAnswered key = true := by
  obtain ⟨channel, found, same, opened⟩ := awaits.channel
  have answer (encode : Rpc.Id → String) : (exchange.answer key encode).isAnswered key = true :=
    exchange.answer_isAnswered key encode channel found (same ▸ awaits.expected) opened
  rcases answers with ⟨result, rfl⟩ | ⟨error, rfl⟩
  · obtain ⟨encode, _, same⟩ := exchange.reply_eq_answer key result
    rw [Exchange.perform, same]
    exact answer encode
  · exact answer fun id => Rpc.errorText id error

end Exchange

/-- A script that answers leaves the request answered, or it ends with an error. -/
theorem Script.run_answers {key : Key} {request : Request} (script : Script σ Outcome)
    (exchange : Exchange σ) (answers : script.Answers key request)
    (allowed : script.ClosesOnly closes) (barred : ¬ closes key)
    (within : exchange.OthersCloseOnly closes) (awaits : exchange.Awaits key request) :
    (script.run exchange).2.isAnswered key = true ∨ (script.run exchange).1.error? ≠ none := by
  induction script generalizing exchange with
  | done outcome => exact .inr answers
  | act step next ih =>
      have turn : Leads closes anyHook exchange exchange.pause := exchange.pause_leads
      have acted : Leads closes anyHook exchange (exchange.pause.perform step) :=
        turn.perform step allowed.1
      rcases answers with here | later
      · have rest : Leads closes anyHook (exchange.pause.perform step)
            (next.run (exchange.pause.perform step)).2 := next.run_leads _ allowed.2
        left
        exact rest.answered (acted.othersCloseOnly within)
          ((awaits.leads turn within barred).perform here)
      · exact ih _ later allowed.2 (acted.othersCloseOnly within)
          (awaits.leads acted within barred)
  | read next ih =>
      have turn : Leads closes anyHook exchange exchange.pause := exchange.pause_leads
      exact ih _ _ (answers _) (allowed _) (turn.othersCloseOnly within)
        (awaits.leads turn within barred)
  | look other next ih =>
      have turn : Leads closes anyHook exchange exchange.pause := exchange.pause_leads
      have later := awaits.leads turn within barred
      obtain ⟨channel, found, same, opened⟩ := later.channel
      by_cases answered : channel.answered = true
      · -- another thread was faster, and the request stays answered
        have rest : Leads closes anyHook exchange.pause
            ((next (exchange.pause.channel? other)).run exchange.pause).2 :=
          (next _).run_leads _ (allowed _)
        left
        exact rest.answered (turn.othersCloseOnly within)
          (by simp [Exchange.isAnswered, found, answered])
      · refine ih _ _ (answers _ fun here => ?_) (allowed _) (turn.othersCloseOnly within) later
        exact ⟨channel, here ▸ found, same, opened, by simpa using answered⟩

namespace RequestTask

variable {exchange : Exchange σ}

/-- A request hook that answers or fails leaves the request answered. -/
theorem invoke_answers (task : RequestTask σ)
    (answers : (task.entrypoint.onRequest task.key task.request).Answers task.key task.request)
    (allowed : task.entrypoint.ClosesOnly closes) (barred : ¬ closes task.key)
    (within : exchange.OthersCloseOnly closes)
    (awaits : exchange.Awaits task.key task.request) :
    (task.invoke exchange).isAnswered task.key = true := by
  have call : Leads closes anyHook exchange
      (exchange.record (.called task.entrypoint.method (.request task.key))) :=
    (Leads.refl exchange).call _ _ trivial
  have started := awaits.leads call within barred
  have closed := call.othersCloseOnly within
  have hooked : Leads closes anyHook _
      (exchange.callRequest task.entrypoint task.key task.request).2 :=
    (task.entrypoint.onRequest task.key task.request).run_leads
      (exchange.record (.called task.entrypoint.method (.request task.key)))
      (allowed.onRequest task.key task.request)
  have outcome : (exchange.callRequest task.entrypoint task.key task.request).2.isAnswered
        task.key = true ∨
      (exchange.callRequest task.entrypoint task.key task.request).1.error? ≠ none :=
    (task.entrypoint.onRequest task.key task.request).run_answers _ answers
      (allowed.onRequest task.key task.request) barred closed started
  unfold invoke
  dsimp only
  split
  · next quiet =>
      rcases outcome with answered | failed
      · exact answered
      · exact absurd quiet failed
  · next error failed =>
      have reported := (hooked.log (.taskFailed task.request.client task.request.id
        task.request.method error)).pause
      exact (started.leads reported closed barred).perform (.inr ⟨error, rfl⟩)

/-- A task that runs for the first time answers its request, if its hook does or fails. -/
theorem run_answers (task : RequestTask σ) (fresh : ¬ task.IsSpent)
    (answers : (task.entrypoint.onRequest task.key task.request).Answers task.key task.request)
    (allowed : task.entrypoint.ClosesOnly closes) (barred : ¬ closes task.key)
    (within : exchange.OthersCloseOnly closes)
    (awaits : exchange.Awaits task.key task.request) :
    (task.run exchange).2.isAnswered task.key = true := by
  rw [task.run_eq_invoke exchange fresh]
  have logged : Leads closes anyHook exchange
      (exchange.log (.taskRunning task.request.client task.request.id task.request.method)) :=
    (Leads.refl exchange).log _
  exact task.invoke_answers answers allowed barred (logged.othersCloseOnly within)
    (awaits.leads logged within barred)

end RequestTask

namespace TaskManager

/-- A queued task that is answered when it runs is answered when the queue has been drained. -/
theorem drain_answers {queued : List (RequestTask σ)} (pending : List (RequestTask σ))
    {exchange : Exchange σ} {task : RequestTask σ} (member : task ∈ queued) (fresh : ¬ task.IsSpent)
    (answers : (task.entrypoint.onRequest task.key task.request).Answers task.key task.request)
    (allowed : TasksCloseOnly closes queued) (barred : ¬ closes task.key)
    (within : exchange.OthersCloseOnly closes)
    (awaits : exchange.Awaits task.key task.request) :
    (drain (queued.map .request) (pending.map .request) exchange).2.isAnswered task.key = true := by
  induction queued generalizing pending exchange with
  | nil => cases member
  | cons first queued ih =>
      have ran : Leads closes anyHook exchange (first.run exchange).2.pause :=
        ((first.run_leads exchange (allowed first (by simp))).widen fun _ _ => trivial).pause
      simp only [List.map_cons, drain, Task.run, retain_request]
      rcases List.mem_cons.mp member with rfl | later
      · have answered := Exchange.pause_answered _
          (task.run_answers fresh answers (allowed task (by simp)) barred within awaits)
        have rest := drain_leads queued
          (if (task.run exchange).1.isPending (task.run exchange).2.pause then
            pending ++ [(task.run exchange).1] else pending)
          (task.run exchange).2.pause fun held there => allowed held (by simp [there])
        exact rest.answered (ran.othersCloseOnly within) answered
      · exact ih _ later (fun held there => allowed held (by simp [there]))
          (ran.othersCloseOnly within) (awaits.leads ran within barred)

/-! ### Waiting in the queue -/

variable {manager : TaskManager σ} {exchange : Exchange σ}

theorem mem_add_queue {task : Task σ} (member : task ∈ manager.queue) (other : Task σ) :
    task ∈ (manager.add other exchange).1.queue := by
  unfold TaskManager.add
  split_ifs
  · exact member
  · exact List.mem_append_left _ member

/-- A synchronous task stays in the queue as it is when a task is cancelled. -/
theorem mem_cancel_queue {task : RequestTask σ} (member : .request task ∈ manager.queue)
    (sync : task.entrypoint.isAsync = false) (client : ClientId) (id : Rpc.Id) :
    .request task ∈ (manager.cancel client id exchange).2.1.queue := by
  have first {tasks cancelled : List (Task σ)} {exchange after : Exchange σ}
      {outcome : Except Rpc.Error Unit} (member : .request task ∈ tasks)
      (found : cancelFirst client id tasks exchange = some (outcome, cancelled, after)) :
      .request task ∈ cancelled := by
    induction tasks generalizing cancelled with
    | nil => cases member
    | cons head tasks ih =>
        unfold cancelFirst at found
        split_ifs at found
        · cases found
          rcases List.mem_cons.mp member with rfl | member
          · simp [task.cancel_sync exchange sync]
          · exact List.mem_cons_of_mem _ member
        · obtain ⟨⟨_, rest, _⟩, inner, same⟩ := Option.map_eq_some_iff.mp found
          cases same
          rcases List.mem_cons.mp member with rfl | member
          · exact List.mem_cons_self
          · exact List.mem_cons_of_mem _ (ih member inner)
  unfold TaskManager.cancel
  split_ifs
  · exact member
  · dsimp only
    split
    · next found => exact first member found
    · split <;> exact member

/-- A task stays in the queue as it is when another client leaves. -/
theorem mem_disconnect_queue {task : RequestTask σ} (member : .request task ∈ manager.queue)
    {client : ClientId} (stays : task.request.client ≠ client) :
    .request task ∈ (manager.disconnect client exchange).1.queue := by
  have each {tasks : List (Task σ)} (exchange : Exchange σ) (member : .request task ∈ tasks) :
      .request task ∈ (disconnectEach client tasks exchange).1 := by
    induction tasks generalizing exchange with
    | nil => cases member
    | cons head tasks ih =>
        rcases List.mem_cons.mp member with rfl | member
        · simp [disconnectEach, Task.client, stays]
        · exact List.mem_cons_of_mem _ (ih _ member)
  exact each exchange member

end TaskManager

end RpcDispatch
