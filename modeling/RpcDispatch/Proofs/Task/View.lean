import RpcDispatch.Proofs.Task.Ledger
import RpcDispatch.Proofs.Task.Ticket

/-
This file says what a client can tell of the task manager: the tickets of its own tasks, and the
texts that it was sent.  Where all entrypoints are local, the operations of the manager for one
client change its view in a way that its view determines, and no other client can tell.
-/

namespace RpcDispatch

open Exchange (Still Turn)

variable {σ : Type} {deeds : Entrypoint σ → Request → Deed}

/-- The tickets of the tasks of a client, in order. -/
def tickets (client : ClientId) (exchange : Exchange σ) (tasks : List (RequestTask σ)) :
    List (Ticket σ) :=
  (tasks.filter (·.request.client = client)).map (·.ticket exchange)

section Tickets

variable {client : ClientId} {exchange before after : Exchange σ} {task : RequestTask σ}
  {tasks : List (RequestTask σ)}

@[simp] theorem tickets_nil (client : ClientId) (exchange : Exchange σ) :
    tickets client exchange [] = [] := rfl

@[simp] theorem tickets_append (client : ClientId) (exchange : Exchange σ)
    (first second : List (RequestTask σ)) :
    tickets client exchange (first ++ second) =
      tickets client exchange first ++ tickets client exchange second := by
  simp [tickets]

/-- A task adds its ticket to those of its client. -/
theorem tickets_cons (client : ClientId) (exchange : Exchange σ) (task : RequestTask σ)
    (tasks : List (RequestTask σ)) :
    tickets client exchange (task :: tasks) =
      if task.request.client = client then task.ticket exchange :: tickets client exchange tasks
      else tickets client exchange tasks := by
  by_cases own : task.request.client = client <;> simp [tickets, own]

theorem tickets_own (own : task.request.client = client) :
    tickets client exchange (task :: tasks) =
      task.ticket exchange :: tickets client exchange tasks := by
  rw [tickets_cons, if_pos own]

theorem tickets_other (other : task.request.client ≠ client) :
    tickets client exchange (task :: tasks) = tickets client exchange tasks := by
  rw [tickets_cons, if_neg other]

/-- Tickets stay the same while the channels of the tasks do. -/
theorem tickets_congr (same : ∀ task ∈ tasks, after.channel? task.key = before.channel? task.key) :
    tickets client after tasks = tickets client before tasks :=
  List.map_congr_left fun task member =>
    RequestTask.ticket_of_channel? (same task (List.mem_of_mem_filter member))

/-- A still stretch leaves the tickets of every client. -/
theorem tickets_still (still : Still before after) (client : ClientId)
    (tasks : List (RequestTask σ)) : tickets client after tasks = tickets client before tasks :=
  tickets_congr fun task _ => still.channel? task.key

end Tickets

/-- What a client can tell: its tickets in the queue and those that are pending, and its texts. -/
structure View (σ : Type) where
  queue : List (Ticket σ)
  pending : List (Ticket σ)
  texts : List String

/-- The state of the tasks as a client can tell. -/
def view (client : ClientId) (queued pending : List (RequestTask σ)) (exchange : Exchange σ) :
    View σ :=
  ⟨tickets client exchange queued, (tickets client exchange pending).filter Ticket.isPending,
    exchange.textsTo client⟩

/-- All held tasks have local entrypoints and channels of their own, and nothing has happened to
the requests of those in the queue unless their clients have left. -/
structure Ready (deeds : Entrypoint σ → Request → Deed) (queued pending : List (RequestTask σ))
    (exchange : Exchange σ) : Prop where
  quiet : exchange.OthersQuiet
  isLocal : ∀ task ∈ queued ++ pending, task.entrypoint.IsLocal (deeds task.entrypoint)
  enrolled : ∀ task ∈ queued ++ pending, task.IsEnrolled exchange
  once : ((queued ++ pending).map (·.key)).Nodup
  fresh : ∀ task ∈ queued, (task.ticket exchange).IsFresh

section

variable {queued pending : List (RequestTask σ)} {before after exchange : Exchange σ}

/-- What concerns no request changes nothing. -/
theorem Ready.still (ready : Ready deeds queued pending before) (still : Still before after) :
    Ready deeds queued pending after where
  quiet := still.quiet ready.quiet
  isLocal := ready.isLocal
  enrolled task member := (ready.enrolled task member).of_channel? (still.channel? _)
  once := ready.once
  fresh task member := by
    rw [RequestTask.ticket_of_channel? (still.channel? _)]
    exact ready.fresh task member

/-- A still stretch leaves the view of every client. -/
theorem view_still (still : Still before after) (client : ClientId)
    (queued pending : List (RequestTask σ)) :
    view client queued pending after = view client queued pending before := by
  simp only [view, tickets_still still, still.textsTo]

/-! ### Running -/

namespace View

/-- The view after a ticket has been run, which is kept if it is pending. -/
def run (deeds : Entrypoint σ → Request → Deed) (view : View σ) (ticket : Ticket σ) : View σ :=
  let (ran, texts) := ticket.run deeds
  { view with
    pending := if ran.isPending then view.pending ++ [ran] else view.pending
    texts := view.texts ++ texts }

/-- The view after the whole queue has been run. -/
def runAll (deeds : Entrypoint σ → Request → Deed) (view : View σ) : View σ :=
  view.queue.foldl (run deeds) { view with queue := [] }

end View

section

variable {task : RequestTask σ} {next : Ticket σ × List String}

/-- What becomes of one task leaves the channels of the others. -/
theorem Ready.other_channels (ready : Ready deeds (task :: queued) pending exchange)
    {result : RequestTask σ × Exchange σ}
    (becomes : RequestTask.Becomes exchange task result next) :
    ∀ other ∈ queued ++ pending, result.2.channel? other.key = exchange.channel? other.key := by
  have once := ready.once
  rw [List.cons_append, List.map_cons, List.nodup_cons] at once
  refine fun other member => becomes.turn.other fun key => once.1 ?_
  exact key ▸ List.mem_map_of_mem member

/-- The first task has been run, and is kept if it is pending. -/
theorem Ready.run_ready {ran : RequestTask σ × Exchange σ}
    (ready : Ready deeds (task :: queued) pending exchange)
    (becomes : RequestTask.Becomes exchange task (ran.1, ran.2.pause) next) :
    Ready deeds queued (retained pending ran) ran.2.pause := by
  have same := ready.other_channels becomes
  have first : task ∈ task :: queued ++ pending := by simp
  have cases (other : RequestTask σ) (member : other ∈ queued ++ retained pending ran) :
      other ∈ queued ++ pending ∨ other = ran.1 := by
    rw [List.mem_append] at member
    rcases member with waits | kept
    · exact .inl (List.mem_append_left _ waits)
    · exact (mem_retained kept).imp_left (List.mem_append_right _)
  refine ⟨becomes.turn.quiet ready.quiet, fun other member => ?_, fun other member => ?_,
    nodup_retained ready.once becomes.same.key, fun other member => ?_⟩
  · rcases cases other member with old | rfl
    · exact ready.isLocal other (List.mem_cons_of_mem task old)
    · rw [becomes.same.entrypoint]
      exact ready.isLocal task first
  · rcases cases other member with old | rfl
    · exact (ready.enrolled other (List.mem_cons_of_mem task old)).of_channel? (same other old)
    · exact becomes.enrolled (ready.enrolled task first)
  · rw [RequestTask.ticket_of_channel? (same other (List.mem_append_left _ member))]
    exact ready.fresh other (List.mem_cons_of_mem task member)

/-- The client of the first task sees its ticket and its texts, and no other client sees anything. -/
theorem Ready.run_view {ran : RequestTask σ × Exchange σ}
    (ready : Ready deeds (task :: queued) pending exchange)
    (becomes : RequestTask.Becomes exchange task (ran.1, ran.2.pause) next) (client : ClientId) :
    view client queued (retained pending ran) ran.2.pause =
      let before := view client queued pending exchange
      if task.request.client = client then
        { before with
          pending := if next.1.isPending then before.pending ++ [next.1] else before.pending
          texts := before.texts ++ next.2 }
      else before := by
  have same := ready.other_channels becomes
  have queue : tickets client ran.2.pause queued = tickets client exchange queued :=
    tickets_congr fun other member => same other (List.mem_append_left _ member)
  have kept : tickets client ran.2.pause pending = tickets client exchange pending :=
    tickets_congr fun other member => same other (List.mem_append_right _ member)
  have ticket : ran.1.ticket ran.2.pause = next.1 := becomes.ticket
  have pends : ran.1.isPending ran.2.pause = next.1.isPending := by
    rw [← ticket, RequestTask.isPending_ticket (becomes.enrolled (ready.enrolled task (by simp)))]
  have owner : ran.1.request.client = task.request.client :=
    congrArg Request.client becomes.same.request
  have texts := becomes.turn.texts client
  rw [becomes.request] at texts
  unfold view retained
  dsimp only at texts ⊢
  rw [pends, texts, queue]
  by_cases own : task.request.client = client
  · rw [if_pos own, if_pos own]
    split_ifs with still
    · simp [tickets_own (owner.trans own), kept, ticket, still]
    · simp [kept]
  · rw [if_neg own, if_neg own, List.append_nil]
    split_ifs
    · simp [tickets_other (owner ▸ own), kept]
    · rw [kept]

/-- Running the first task is a step for its client alone. -/
theorem Ready.run (ready : Ready deeds (task :: queued) pending exchange) :
    let ran := task.run exchange
    Ready deeds queued (retained pending ran) ran.2.pause ∧
      ∀ client, view client queued (retained pending ran) ran.2.pause =
        if task.request.client = client then
          (view client queued pending exchange).run deeds (task.ticket exchange)
        else view client queued pending exchange := by
  intro ran
  have done := RequestTask.run_becomes deeds task ready.quiet (ready.enrolled task (by simp))
    (ready.fresh task (by simp)) (ready.isLocal task (by simp)).onRequest
  have becomes := done.then (ran.2.pause_still (done.turn.quiet ready.quiet))
  exact ⟨ready.run_ready becomes, ready.run_view becomes⟩

end

/-! ### Pruning -/

/-- Dropping the finished tasks sends nothing and keeps the pending tickets. -/
theorem keepPending_still (tasks : List (RequestTask σ)) (quiet : exchange.OthersQuiet)
    (enrolled : ∀ task ∈ tasks, task.IsEnrolled exchange) :
    Still exchange (TaskManager.keepPending (tasks.map .request) exchange).2 ∧
      (TaskManager.keepPending (tasks.map .request) exchange).1 =
        (tasks.filter fun task => (task.ticket exchange).isPending).map .request := by
  induction tasks generalizing exchange with
  | nil => exact ⟨.refl exchange, rfl⟩
  | cons task tasks ih =>
      have paused := exchange.pause_still quiet
      have same (other : RequestTask σ) := RequestTask.ticket_of_channel? (paused.channel? other.key)
      obtain ⟨still, kept⟩ := ih (paused.quiet quiet) fun other member =>
        (enrolled other (by simp [member])).of_channel? (paused.channel? _)
      have asked : task.isPending exchange.pause = (task.ticket exchange).isPending := by
        rw [← same task]
        exact RequestTask.isPending_ticket ((enrolled task (by simp)).of_channel? (paused.channel? _))
      refine ⟨paused.trans still, ?_⟩
      simp only [same] at kept
      simp only [List.map_cons, TaskManager.keepPending, Task.isPending, asked, kept,
        List.filter_cons]
      split_ifs <;> rfl

/-- No client can tell whether the pending tasks have been pruned. -/
theorem Ready.prune (ready : Ready deeds queued pending exchange) :
    let after := TaskManager.keepPending (pending.map .request) exchange
    ∃ kept : List (RequestTask σ), after.1 = kept.map .request ∧ Still exchange after.2 ∧
      Ready deeds queued kept after.2 ∧
      (∀ task ∈ kept, (task.ticket after.2).isPending = true) ∧
      ∀ client, view client queued kept after.2 = view client queued pending exchange := by
  intro after
  let kept := pending.filter fun task => (task.ticket exchange).isPending
  obtain ⟨still, same⟩ := keepPending_still pending ready.quiet fun task member =>
    ready.enrolled task (by simp [member])
  have whole : List.Sublist (queued ++ kept) (queued ++ pending) :=
    List.filter_sublist.append_left queued
  have pruned : Ready deeds queued kept exchange :=
    ⟨ready.quiet, fun task member => ready.isLocal task (whole.subset member),
      fun task member => ready.enrolled task (whole.subset member),
      ready.once.sublist (whole.map _), ready.fresh⟩
  refine ⟨kept, same, still, pruned.still still, fun task member => ?_, fun client => ?_⟩
  · rw [RequestTask.ticket_of_channel? (still.channel? _)]
    exact (List.mem_filter.mp member).2
  · rw [view_still still]
    unfold view tickets
    congr 1
    rw [List.filter_map, List.filter_map, List.filter_filter, List.filter_filter,
      List.filter_filter]
    congr 1
    refine List.filter_congr fun task _ => ?_
    simp only [Function.comp_apply]
    cases (task.ticket exchange).isPending <;> simp

/-! ### The whole queue -/

/-- Draining the queue is running the tickets of each client in its own view. -/
theorem drain_view (ready : Ready deeds queued pending exchange) :
    let after := TaskManager.drain (queued.map .request) (pending.map .request) exchange
    ∃ held : List (RequestTask σ), after.1 = held.map .request ∧ Ready deeds [] held after.2 ∧
      ∀ client, view client [] held after.2 =
        (view client queued pending exchange).runAll deeds := by
  induction queued generalizing pending exchange with
  | nil => exact ⟨pending, rfl, ready, fun client => rfl⟩
  | cons task queued ih =>
      obtain ⟨next, views⟩ := ready.run
      obtain ⟨held, same, later, runs⟩ := ih next
      have step : TaskManager.drain ((task :: queued).map .request) (pending.map .request) exchange =
          TaskManager.drain (queued.map .request)
            ((retained pending (task.run exchange)).map .request)
            (task.run exchange).2.pause := by
        simp only [List.map_cons, TaskManager.drain, Task.run, TaskManager.retain_request, retained]
      rw [step]
      refine ⟨held, same, later, fun client => ?_⟩
      rw [runs, views]
      split_ifs with own
      · simp only [view, tickets_own own, View.runAll, View.run, List.foldl_cons]
      · simp only [view, tickets_other own]

/-- Running the queue is a step for every client at once. -/
theorem runAll_view (ready : Ready deeds queued pending exchange) :
    let after := TaskManager.runAll ⟨queued.map .request, pending.map .request⟩ exchange
    ∃ held : List (RequestTask σ), after.1 = ⟨[], held.map .request⟩ ∧
      Ready deeds [] held after.2 ∧
      ∀ client, view client [] held after.2 =
        (view client queued pending exchange).runAll deeds := by
  obtain ⟨held, same, later, runs⟩ := drain_view ready
  unfold TaskManager.runAll
  generalize TaskManager.drain (queued.map .request) (pending.map .request) exchange = drained
    at same later runs ⊢
  obtain ⟨tasks, after⟩ := drained
  cases same
  obtain ⟨kept, pruned, _, last, _, views⟩ := later.prune
  simp only [TaskManager.prune, pruned]
  exact ⟨kept, rfl, last, fun client => by rw [views, runs]⟩

/-! ### Cancelling -/

namespace View

/-- Cancels the first ticket of a list that answers the identifier. -/
def cancelFirst (id : Rpc.Id) :
    List (Ticket σ) → Option (Except Rpc.Error Unit × List (Ticket σ))
  | [] => none
  | ticket :: tickets =>
    if ticket.channel.request.id == id then
      let (outcome, ticket) := ticket.cancel
      some (outcome, ticket :: tickets)
    else (cancelFirst id tickets).map fun (outcome, tickets) => (outcome, ticket :: tickets)

/-- Cancels the first ticket that answers the identifier; the queue comes before the pending
tickets. -/
def search (id : Rpc.Id) (view : View σ) : Except Rpc.Error Unit × View σ :=
  match cancelFirst id view.queue with
  | some (outcome, queue) => (outcome, { view with queue })
  | none =>
    match cancelFirst id view.pending with
    | some (outcome, pending) => (outcome, { view with pending })
    | none => (.error (.invalidParams s!"No task found with id {id.display}" []), view)

/-- The view after a cancellation, and how that ended. -/
def cancel (id : Rpc.Id) (view : View σ) : Except Rpc.Error Unit × View σ :=
  if id.isEmpty then (.error (.invalidParams "Cannot cancel a task without id" []), view)
  else view.search id

end View

/-- Cancelling in a list of tasks is cancelling in the tickets of the client. -/
theorem cancelFirst_view {client : ClientId} {id : Rpc.Id} (tasks : List (RequestTask σ))
    (enrolled : ∀ task ∈ tasks, task.IsEnrolled exchange) :
    (TaskManager.cancelFirst client id (tasks.map .request) exchange = none ∧
        View.cancelFirst id (tickets client exchange tasks) = none) ∨
      ∃ front task rest, tasks = front ++ task :: rest ∧ task.request.client = client ∧
        TaskManager.cancelFirst client id (tasks.map .request) exchange =
          some ((task.cancel exchange).1, (front ++ (task.cancel exchange).2.1 :: rest).map .request,
            (task.cancel exchange).2.2) ∧
        View.cancelFirst id (tickets client exchange tasks) =
          some ((task.ticket exchange).cancel.1,
            tickets client exchange front ++
              (task.ticket exchange).cancel.2 :: tickets client exchange rest) := by
  induction tasks with
  | nil => exact .inl ⟨rfl, rfl⟩
  | cons task tasks ih =>
      have named : (Task.request task).isFor client id =
          (decide (task.request.client = client) && task.request.id == id) := rfl
      have request := (enrolled task (by simp)).request
      have later := ih fun other member => enrolled other (by simp [member])
      by_cases own : task.request.client = client
      · by_cases answers : (task.request.id == id) = true
        · refine .inr ⟨[], task, tasks, rfl, own, ?_, ?_⟩
          · simp [TaskManager.cancelFirst, named, own, answers, Task.cancel]
          · simp [View.cancelFirst, tickets_own own, request, answers]
        · rcases later with ⟨absent, unseen⟩ | ⟨front, found, rest, split, same, cut, seen⟩
          · exact .inl ⟨by simp [TaskManager.cancelFirst, named, answers, absent],
              by simp [View.cancelFirst, tickets_own own, request, answers, unseen]⟩
          · refine .inr ⟨task :: front, found, rest, by simp [split], same, ?_, ?_⟩
            · simp [TaskManager.cancelFirst, named, answers, cut]
            · simp [View.cancelFirst, tickets_own own, request, answers, seen]
      · rcases later with ⟨absent, unseen⟩ | ⟨front, found, rest, split, same, cut, seen⟩
        · exact .inl ⟨by simp [TaskManager.cancelFirst, named, own, absent],
            by rw [tickets_other own]; exact unseen⟩
        · refine .inr ⟨task :: front, found, rest, by simp [split], same, ?_, ?_⟩
          · simp [TaskManager.cancelFirst, named, own, cut]
          · simp [tickets_other own, seen]

/-- Tasks may be cancelled. -/
theorem Ready.recast {queued' pending' : List (RequestTask σ)}
    (ready : Ready deeds queued pending exchange)
    (queue : ∀ task ∈ queued', ∃ old ∈ queued, task.Alike old)
    (run : ∀ task ∈ pending', ∃ old ∈ pending, task.Alike old)
    (once : ((queued' ++ pending').map (·.key)).Nodup) :
    Ready deeds queued' pending' exchange := by
  have whole : ∀ task ∈ queued' ++ pending', ∃ old ∈ queued ++ pending, task.Alike old := by
    intro task member
    rcases List.mem_append.mp member with member | member
    · obtain ⟨old, present, alike⟩ := queue task member
      exact ⟨old, List.mem_append_left _ present, alike⟩
    · obtain ⟨old, present, alike⟩ := run task member
      exact ⟨old, List.mem_append_right _ present, alike⟩
  refine ⟨ready.quiet, fun task member => ?_, fun task member => ?_, once, fun task member => ?_⟩
  · obtain ⟨old, present, alike⟩ := whole task member
    rw [alike.entrypoint]
    exact ready.isLocal old present
  · obtain ⟨old, present, alike⟩ := whole task member
    rw [RequestTask.IsEnrolled, alike.key, alike.request]
    exact ready.enrolled old present
  · obtain ⟨old, present, alike⟩ := queue task member
    have fresh := ready.fresh old present
    rw [RequestTask.ticket, Ticket.IsFresh, alike.disconnected, alike.key, alike.request]
    exact fresh

end

end RpcDispatch
