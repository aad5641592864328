import RpcDispatch.Proofs.Task.View

/-
This file shows that the operations of the task manager concern one client each: they change the
view of that client by a step that can be told from the view alone, and no other view.
-/

namespace RpcDispatch

open Exchange (Still Turn)

variable {σ : Type} {deeds : Entrypoint σ → Request → Deed}

/-- What a client can tell of the tasks and the exchange. -/
def viewOf (client : ClientId) (state : TaskManager σ × Exchange σ) : View σ :=
  view client (state.1.queue.filterMap Task.request?) (state.1.pending.filterMap Task.request?)
    state.2

/-- The manager holds request tasks only, and they are ready. -/
def IsReady (deeds : Entrypoint σ → Request → Deed) (state : TaskManager σ × Exchange σ) : Prop :=
  ∃ queued pending, state.1 = ⟨queued.map .request, pending.map .request⟩ ∧
    Ready deeds queued pending state.2

/-- The view of a manager of request tasks is the view of its lists. -/
theorem viewOf_request (client : ClientId) (queued pending : List (RequestTask σ))
    (exchange : Exchange σ) :
    viewOf client (⟨queued.map .request, pending.map .request⟩, exchange) =
      view client queued pending exchange := by
  simp only [viewOf, filterMap_request]

/-- What happened changed the view of one client by the given step, and no other view. -/
structure Concerns (deeds : Entrypoint σ → Request → Deed) (client : ClientId)
    (step : View σ → View σ) (before after : TaskManager σ × Exchange σ) : Prop where
  ready : IsReady deeds after
  own : viewOf client after = step (viewOf client before)
  others : ∀ other, other ≠ client → viewOf other after = viewOf other before

section

variable {client : ClientId} {step next : View σ → View σ}
  {before middle after : TaskManager σ × Exchange σ} {manager : TaskManager σ}
  {exchange later : Exchange σ}

/-- One thing after another. -/
theorem Concerns.trans (first : Concerns deeds client step before middle)
    (second : Concerns deeds client next middle after) :
    Concerns deeds client (fun view => next (step view)) before after where
  ready := second.ready
  own := second.own.trans (congrArg next first.own)
  others other apart := (second.others other apart).trans (first.others other apart)

/-- Only what the step does to the view at hand matters. -/
theorem Concerns.congr (concerns : Concerns deeds client step before after)
    (same : step (viewOf client before) = next (viewOf client before)) :
    Concerns deeds client next before after :=
  ⟨concerns.ready, concerns.own.trans same, concerns.others⟩

/-- What every client can tell is the same before and after. -/
theorem IsReady.unseen (ready : IsReady deeds after)
    (same : ∀ client, viewOf client after = viewOf client before) (client : ClientId) :
    Concerns deeds client id before after :=
  ⟨ready, same client, fun other _ => same other⟩

/-- What concerns no request concerns no client. -/
theorem IsReady.still (ready : IsReady deeds (manager, exchange)) (still : Still exchange later)
    (client : ClientId) : Concerns deeds client id (manager, exchange) (manager, later) := by
  obtain ⟨queued, pending, rfl, ready⟩ := ready
  refine IsReady.unseen ⟨queued, pending, rfl, ready.still still⟩ (fun client => ?_) client
  rw [viewOf_request, viewOf_request, view_still still]

/-- Where the tasks are ready, the other threads are quiet. -/
theorem IsReady.quiet (ready : IsReady deeds before) : before.2.OthersQuiet := by
  obtain ⟨queued, pending, _, ready⟩ := ready
  exact ready.quiet

/-! ### Cancelling -/

/-- Where one task of a list is cancelled, its client has the cancelled ticket there, and no other
client can tell. -/
theorem tickets_cancel {task : RequestTask σ} (quiet : exchange.OthersQuiet)
    (enrolled : task.IsEnrolled exchange) (allowed : task.entrypoint.onCancel.IsQuiet)
    (own : task.request.client = client) (front rest : List (RequestTask σ)) :
    tickets client exchange (front ++ (task.cancel exchange).2.1 :: rest) =
        tickets client exchange front ++
          (task.ticket exchange).cancel.2 :: tickets client exchange rest ∧
      ∀ other, other ≠ client →
        tickets other exchange (front ++ (task.cancel exchange).2.1 :: rest) =
          tickets other exchange (front ++ task :: rest) := by
  obtain ⟨_, ticket, _⟩ := task.cancel_ticket quiet enrolled allowed
  have owner : (task.cancel exchange).2.1.request.client = task.request.client :=
    congrArg Request.client (task.cancel_alike exchange).request
  constructor
  · rw [tickets_append, tickets_own (owner.trans own), ticket]
  · intro other apart
    have away : task.request.client ≠ other := own ▸ apart.symm
    rw [tickets_append, tickets_append, tickets_other away, tickets_other (owner ▸ away)]

/-- A cancelled ticket is as pending as before. -/
theorem Ticket.isPending_cancel (ticket : Ticket σ) :
    ticket.cancel.2.isPending = ticket.isPending := by
  unfold Ticket.cancel
  dsimp only
  split_ifs <;> rfl

/-- The report of a cancellation sends nothing and changes no channel. -/
theorem reportCancel_still (client : ClientId) (id : Rpc.Id) (outcome : Except Rpc.Error Unit)
    (exchange : Exchange σ) :
    Still exchange (TaskManager.reportCancel client id outcome exchange) := by
  cases outcome with
  | ok _ => exact (Still.refl exchange).log _
  | error _ => exact .refl exchange

/-- Pruned pending tasks are all pending, so that every client sees all of its own. -/
theorem view_pruned {queued kept : List (RequestTask σ)}
    (pends : ∀ task ∈ kept, (task.ticket exchange).isPending = true) (client : ClientId) :
    view client queued kept exchange =
      ⟨tickets client exchange queued, tickets client exchange kept, exchange.textsTo client⟩ := by
  have all : (tickets client exchange kept).filter Ticket.isPending =
      tickets client exchange kept := by
    refine List.filter_eq_self.mpr fun ticket member => ?_
    obtain ⟨task, listed, rfl⟩ := List.mem_map.mp member
    exact pends task (List.mem_of_mem_filter listed)
  rw [view, all]

/-- A task of the queue is cancelled. -/
theorem Ready.cancelQueued {front rest kept : List (RequestTask σ)} {task : RequestTask σ}
    (ready : Ready deeds (front ++ task :: rest) kept exchange)
    (own : task.request.client = client) (still : Still (task.cancel exchange).2.2 later) :
    Concerns deeds client
      (fun view => { view with
        queue := tickets client exchange front ++
          (task.ticket exchange).cancel.2 :: tickets client exchange rest })
      (⟨(front ++ task :: rest).map .request, kept.map .request⟩, exchange)
      (⟨(front ++ (task.cancel exchange).2.1 :: rest).map .request, kept.map .request⟩, later) := by
  have enrolled := ready.enrolled task (by simp)
  have allowed := (ready.isLocal task (by simp)).onCancel
  have alike := task.cancel_alike exchange
  obtain ⟨_, _, cancelled⟩ := task.cancel_ticket ready.quiet enrolled allowed
  obtain ⟨mine, others⟩ := tickets_cancel ready.quiet enrolled allowed own front rest
  have whole := cancelled.trans still
  have once : ((front ++ (task.cancel exchange).2.1 :: rest ++ kept).map (·.key)).Nodup := by
    simpa [alike.key] using ready.once
  have next := ready.recast (mem_replaced alike) (fun old member => ⟨old, member, .refl old⟩) once
  refine ⟨⟨_, _, rfl, next.still whole⟩, ?_, fun other apart => ?_⟩
  · rw [viewOf_request, viewOf_request, view_still whole]
    simp only [view, mine]
  · rw [viewOf_request, viewOf_request, view_still whole]
    simp only [view, others other apart]

/-- A pending task is cancelled. -/
theorem Ready.cancelPending {queued front rest : List (RequestTask σ)} {task : RequestTask σ}
    (ready : Ready deeds queued (front ++ task :: rest) exchange)
    (pends : ∀ held ∈ front ++ task :: rest, (held.ticket exchange).isPending = true)
    (own : task.request.client = client) (still : Still (task.cancel exchange).2.2 later) :
    Concerns deeds client
      (fun view => { view with
        pending := tickets client exchange front ++
          (task.ticket exchange).cancel.2 :: tickets client exchange rest })
      (⟨queued.map .request, (front ++ task :: rest).map .request⟩, exchange)
      (⟨queued.map .request, (front ++ (task.cancel exchange).2.1 :: rest).map .request⟩, later) := by
  have enrolled := ready.enrolled task (by simp)
  have allowed := (ready.isLocal task (by simp)).onCancel
  have alike := task.cancel_alike exchange
  obtain ⟨_, ticket, cancelled⟩ := task.cancel_ticket ready.quiet enrolled allowed
  obtain ⟨mine, others⟩ := tickets_cancel ready.quiet enrolled allowed own front rest
  have whole := cancelled.trans still
  have once : ((queued ++ (front ++ (task.cancel exchange).2.1 :: rest)).map (·.key)).Nodup := by
    simpa [alike.key] using ready.once
  have next := ready.recast (fun old member => ⟨old, member, .refl old⟩) (mem_replaced alike) once
  have same : ∀ held ∈ front ++ (task.cancel exchange).2.1 :: rest,
      (held.ticket exchange).isPending = true := by
    intro new member
    rw [List.mem_append, List.mem_cons] at member
    rcases member with early | here | late
    · exact pends new (by simp [early])
    · rw [here, ticket, Ticket.isPending_cancel]
      exact pends task (by simp)
    · exact pends new (by simp [late])
  refine ⟨⟨_, _, rfl, next.still whole⟩, ?_, fun other apart => ?_⟩
  · rw [viewOf_request, viewOf_request, view_still whole, view_pruned same, mine]
    rfl
  · rw [viewOf_request, viewOf_request, view_still whole]
    simp only [view, others other apart]

/-- Cancelling concerns the client that asks for it, and its view determines how that ends.  No
request is touched. -/
theorem IsReady.cancel (ready : IsReady deeds (manager, exchange)) (client : ClientId)
    (name : Rpc.Id) :
    let result := manager.cancel client name exchange
    result.1 = ((viewOf client (manager, exchange)).cancel name).1 ∧
      Concerns deeds client (fun view => (view.cancel name).2) (manager, exchange) result.2 ∧
      Still exchange result.2.2 := by
  obtain ⟨queued, pending, rfl, ready⟩ := ready
  unfold TaskManager.cancel View.cancel
  by_cases empty : name.isEmpty = true
  · simp only [empty, if_true]
    exact ⟨trivial, IsReady.unseen ⟨queued, pending, rfl, ready⟩ (fun _ => rfl) client,
      .refl exchange⟩
  simp only [empty, Bool.false_eq_true, if_false]
  obtain ⟨held, prunes, pruned, ready', pends, views⟩ := ready.prune
  -- from here on both lists are those of the pruned manager
  simp only [TaskManager.prune, prunes]
  generalize (TaskManager.keepPending (pending.map .request) exchange).2 = middle
    at pruned ready' pends views ⊢
  have seen (client : ClientId) :
      viewOf client (⟨queued.map .request, pending.map .request⟩, exchange) =
        viewOf client (⟨queued.map .request, held.map .request⟩, middle) := by
    rw [viewOf_request, viewOf_request, views]
  have start : Concerns deeds client id
      (⟨queued.map .request, pending.map .request⟩, exchange)
      (⟨queued.map .request, held.map .request⟩, middle) :=
    IsReady.unseen ⟨_, _, rfl, ready'⟩ (fun client => (seen client).symm) client
  have before : viewOf client (⟨queued.map .request, held.map .request⟩, middle) =
      ⟨tickets client middle queued, tickets client middle held, middle.textsTo client⟩ := by
    rw [viewOf_request, view_pruned pends]
  have enrolled (tasks : List (RequestTask σ)) (part : ∀ task ∈ tasks, task ∈ queued ++ held) :
      ∀ task ∈ tasks, task.IsEnrolled middle := fun task member =>
    ready'.enrolled task (part task member)
  rw [seen client, before]
  rcases cancelFirst_view queued (enrolled queued (by simp +contextual)) with
    ⟨absent, unseen⟩ | ⟨front, task, rest, rfl, own, cut, found⟩
  · rcases cancelFirst_view held (enrolled held (by simp +contextual)) with
      ⟨missing, unknown⟩ | ⟨front, task, rest, rfl, own, cut, found⟩
    · rw [absent, missing]
      simp only [View.search, unseen, unknown]
      refine ⟨trivial, start.congr ?_, pruned⟩
      rw [seen client, before]
      simp only [id, unseen, unknown]
    · obtain ⟨outcome, _, cancelled⟩ := task.cancel_ticket ready'.quiet (ready'.enrolled task (by simp))
        (ready'.isLocal task (by simp)).onCancel
      rw [absent, cut]
      simp only [View.search, unseen, found, outcome]
      refine ⟨trivial, (start.trans
        (ready'.cancelPending pends own (reportCancel_still _ _ _ _))).congr ?_,
        pruned.trans (cancelled.trans (reportCancel_still _ _ _ _))⟩
      rw [seen client, before]
      simp only [id, unseen, found]
  · obtain ⟨outcome, _, cancelled⟩ := task.cancel_ticket ready'.quiet (ready'.enrolled task (by simp))
      (ready'.isLocal task (by simp)).onCancel
    rw [cut]
    simp only [View.search, found, outcome]
    refine ⟨trivial, (start.trans
      (ready'.cancelQueued own (reportCancel_still _ _ _ _))).congr ?_,
      pruned.trans (cancelled.trans (reportCancel_still _ _ _ _))⟩
    rw [seen client, before]
    simp only [id, found]

/-! ### Disconnecting -/

/-- The requests of one client were closed, and nothing else happened to any request. -/
structure Departs (client : ClientId) (tasks : List (RequestTask σ)) (exchange later : Exchange σ) :
    Prop where
  quiet : later.OthersQuiet
  texts : ∀ other, later.textsTo other = exchange.textsTo other
  others : ∀ key, (∀ task ∈ tasks, task.request.client = client → task.key ≠ key) →
    later.channel? key = exchange.channel? key
  own : ∀ task ∈ tasks, task.request.client = client →
    (task.leave client).ticket later = (task.ticket exchange).disconnect ∧
      (task.leave client).IsEnrolled later

/-- Disconnecting the tasks of a client makes exactly these depart. -/
theorem disconnectEach_departs (client : ClientId) (tasks : List (RequestTask σ))
    (quiet : exchange.OthersQuiet) (enrolled : ∀ task ∈ tasks, task.IsEnrolled exchange)
    (allowed : ∀ task ∈ tasks, task.entrypoint.onDisconnect.IsQuiet)
    (once : (tasks.map (·.key)).Nodup) :
    Departs client tasks exchange
      (TaskManager.disconnectEach client (tasks.map .request) exchange).2 := by
  induction tasks generalizing exchange with
  | nil => exact ⟨quiet, fun _ => rfl, fun _ _ => rfl, by simp⟩
  | cons task tasks ih =>
      rw [List.map_cons, List.nodup_cons] at once
      have later : ∀ other ∈ tasks, task.key ≠ other.key := fun other member same =>
        once.1 (same ▸ List.mem_map_of_mem member)
      by_cases leaves : task.request.client = client
      · have becomes := task.disconnect_becomes quiet (enrolled task (by simp)) (allowed task (by simp))
        have gone : (task.disconnect exchange).1 = task.leave client := by
          rw [task.disconnect_fst, RequestTask.leave, if_pos leaves]
        have departs := ih (becomes.turn.quiet quiet)
          (fun other member => (enrolled other (by simp [member])).of_channel?
            (becomes.turn.other (later other member).symm))
          (fun other member => allowed other (by simp [member])) once.2
        have step : (TaskManager.disconnectEach client ((task :: tasks).map .request) exchange).2 =
            (TaskManager.disconnectEach client (tasks.map .request)
              (task.disconnect exchange).2).2 := by
          simp [TaskManager.disconnectEach, Task.client, Task.disconnect, leaves]
        rw [step]
        refine ⟨departs.quiet, fun other => ?_, fun key apart => ?_, fun other member own => ?_⟩
        · rw [departs.texts, becomes.turn.texts, ite_self, List.append_nil]
        · rw [departs.others key fun other member => apart other (by simp [member]),
            becomes.turn.other (apart task (by simp) leaves).symm]
        · rcases List.mem_cons.mp member with rfl | member
          · -- the channel that was closed first stays as it is
            have kept := departs.others other.key fun task held _ => (later task held).symm
            have key : (other.leave client).key = other.key := (other.leave_same client).key
            have same := RequestTask.ticket_of_channel? (key ▸ kept :
              _ = (other.disconnect exchange).2.channel? (other.leave client).key)
            rw [same, ← gone]
            refine ⟨becomes.ticket, (becomes.enrolled (enrolled other (by simp))).of_channel? ?_⟩
            rw [gone, key]
            exact kept
          · obtain ⟨ticket, held⟩ := departs.own other member own
            rw [ticket, RequestTask.ticket_of_channel? (becomes.turn.other (later other member).symm)]
            exact ⟨rfl, held⟩
      · have departs := ih quiet (fun other member => enrolled other (by simp [member]))
          (fun other member => allowed other (by simp [member])) once.2
        have step : (TaskManager.disconnectEach client ((task :: tasks).map .request) exchange).2 =
            (TaskManager.disconnectEach client (tasks.map .request) exchange).2 := by
          simp [TaskManager.disconnectEach, Task.client, leaves]
        rw [step]
        refine ⟨departs.quiet, departs.texts,
          fun key apart => departs.others key fun other member => apart other (by simp [member]),
          fun other member own => ?_⟩
        rcases List.mem_cons.mp member with rfl | member
        · exact absurd own leaves
        · exact departs.own other member own

/-- The view of a client that has left. -/
def View.disconnect (view : View σ) : View σ :=
  ⟨view.queue.map Ticket.disconnect, [], view.texts⟩

/-- A disconnected ticket is not pending. -/
theorem Ticket.isPending_disconnect (ticket : Ticket σ) : ticket.disconnect.isPending = false := by
  unfold Ticket.disconnect
  split_ifs with left <;> simp [Ticket.isPending, left]

/-- A disconnected ticket is fresh. -/
theorem Ticket.isFresh_disconnect (ticket : Ticket σ) : ticket.disconnect.IsFresh := by
  unfold Ticket.disconnect Ticket.IsFresh
  split_ifs with left <;> simp [left]

/-- The tickets of tasks of which some have left. -/
theorem tickets_leave (client other : ClientId) (tasks : List (RequestTask σ)) :
    tickets other exchange (tasks.map (·.leave client)) =
      (tasks.filter (·.request.client = other)).map fun task =>
        (task.leave client).ticket exchange := by
  have same (task : RequestTask σ) : (task.leave client).request = task.request :=
    (task.leave_same client).request
  simp only [tickets, List.filter_map, Function.comp_def, same, List.map_map]

/-- The departure of a client disconnects its own tickets and leaves those of every other client. -/
theorem Ready.departs {queued pending : List (RequestTask σ)}
    (ready : Ready deeds queued pending exchange)
    (departs : Departs client (queued ++ pending) exchange later) :
    Ready deeds (queued.map (·.leave client)) (pending.map (·.leave client)) later ∧
      (∀ tasks, (∀ task ∈ tasks, task ∈ queued ++ pending) →
        tickets client later (tasks.map (·.leave client)) =
          (tickets client exchange tasks).map Ticket.disconnect) ∧
      ∀ other, other ≠ client → ∀ tasks, (∀ task ∈ tasks, task ∈ queued ++ pending) →
        tickets other later (tasks.map (·.leave client)) = tickets other exchange tasks := by
  -- a task of another client is not marked, and keeps its channel
  have stays : ∀ task ∈ queued ++ pending, task.request.client ≠ client →
      task.leave client = task ∧ later.channel? task.key = exchange.channel? task.key := by
    intro task member away
    refine ⟨if_neg away, departs.others task.key fun other held own same => away ?_⟩
    rw [← List.inj_on_of_nodup_map ready.once held member same, own]
  refine ⟨⟨departs.quiet, fun task member => ?_, fun task member => ?_, ?_, fun task member => ?_⟩,
    fun tasks part => ?_, fun other apart tasks part => ?_⟩
  · rw [← List.map_append] at member
    obtain ⟨old, held, rfl⟩ := List.mem_map.mp member
    rw [(old.leave_same client).entrypoint]
    exact ready.isLocal old held
  · rw [← List.map_append] at member
    obtain ⟨old, held, rfl⟩ := List.mem_map.mp member
    by_cases leaves : old.request.client = client
    · exact (departs.own old held leaves).2
    · obtain ⟨same, channel⟩ := stays old held leaves
      rw [same]
      exact (ready.enrolled old held).of_channel? channel
  · have keys (task : RequestTask σ) : (task.leave client).key = task.key :=
      (task.leave_same client).key
    simpa [Function.comp_def, keys] using ready.once
  · obtain ⟨old, held, rfl⟩ := List.mem_map.mp member
    have whole := List.mem_append_left pending held
    by_cases leaves : old.request.client = client
    · rw [(departs.own old whole leaves).1]
      exact Ticket.isFresh_disconnect _
    · obtain ⟨same, channel⟩ := stays old whole leaves
      rw [same, RequestTask.ticket_of_channel? channel]
      exact ready.fresh old held
  · rw [tickets_leave, tickets, List.map_map]
    refine List.map_congr_left fun task member => ?_
    obtain ⟨listed, own⟩ := List.mem_filter.mp member
    exact (departs.own task (part task listed) (by simpa using own)).1
  · rw [tickets_leave]
    refine List.map_congr_left fun task member => ?_
    obtain ⟨listed, own⟩ := List.mem_filter.mp member
    have away : task.request.client ≠ client := fun same =>
      apart ((of_decide_eq_true own).symm.trans same)
    obtain ⟨same, channel⟩ := stays task (part task listed) away
    rw [same, RequestTask.ticket_of_channel? channel]

/-- When a client leaves, its own tickets are disconnected, and no other client can tell. -/
theorem IsReady.disconnect (ready : IsReady deeds (manager, exchange)) (client : ClientId) :
    Concerns deeds client View.disconnect (manager, exchange)
      (manager.disconnect client exchange) := by
  obtain ⟨queued, pending, rfl, ready⟩ := ready
  have departs := disconnectEach_departs client (queued ++ pending) ready.quiet ready.enrolled
    (fun task member => (ready.isLocal task member).onDisconnect) ready.once
  obtain ⟨notice, same⟩ := TaskManager.disconnect_request queued pending client exchange
  generalize (TaskManager.disconnectEach client ((queued ++ pending).map .request) exchange).2 =
    left at departs same
  obtain ⟨left_ready, own, others⟩ := ready.departs departs
  obtain ⟨kept, pruned, _, last, _, views⟩ := left_ready.prune
  rw [same, pruned]
  generalize (TaskManager.keepPending _ left).2 = after at last views ⊢
  have logged := (Still.refl after).log notice
  refine ⟨⟨_, kept, rfl, last.still logged⟩, ?_, fun other apart => ?_⟩
  · rw [viewOf_request, viewOf_request, view_still logged, views]
    have gone : ((tickets client exchange pending).map Ticket.disconnect).filter Ticket.isPending =
        [] := by
      refine List.filter_eq_nil_iff.mpr fun ticket member => ?_
      obtain ⟨old, _, rfl⟩ := List.mem_map.mp member
      simp [Ticket.isPending_disconnect]
    simp only [view, View.disconnect, departs.texts, own queued (by simp +contextual),
      own pending (by simp +contextual), gone]
  · rw [viewOf_request, viewOf_request, view_still logged, views]
    simp only [view, departs.texts, others other apart queued (by simp +contextual),
      others other apart pending (by simp +contextual)]

end

end RpcDispatch
