import RpcDispatch.Proofs.Dispatch.Answering
import RpcDispatch.Proofs.Task.Silence

/-
This file follows the clients that leave.  Whatever a service does, a request whose disconnect hook
was called stays hushed, and its request hook is not called any more.
-/

namespace RpcDispatch

open Exchange (Leads Grows)

variable {σ : Type} {hooks : Hook → Prop}

namespace Exchange

variable {before middle after : Exchange σ} {key : Key}

/-- The hook of a hushed request has been called. -/
theorem Hushed.left (hushed : before.Hushed key) : .disconnect key ∈ before.calls := by
  obtain ⟨past, method, future, trace, _⟩ := hushed.silent
  rw [calls, trace, List.filterMap_append]
  exact List.mem_append_right _ List.mem_cons_self

/-- A hushed request has a channel. -/
theorem Hushed.enrolled (hushed : before.Hushed key) : key < before.channels.length := by
  have closed := hushed.closed
  unfold isClosed channel? at closed
  by_contra beyond
  rw [List.getElem?_eq_none (Nat.le_of_not_lt beyond)] at closed
  cases closed

/-- What a service does with an exchange respects the departures.  Requests that were hushed are not
called any more, and whoever leaves is hushed as well. -/
structure Respects (before after : Exchange σ) : Prop where
  grows : Grows anyKey before after
  hushes : before.Hushes → after.Hushes
  barred : ∀ key, before.Hushed key → .request key ∈ after.calls → .request key ∈ before.calls

theorem Respects.refl (exchange : Exchange σ) : exchange.Respects exchange :=
  ⟨.refl exchange, id, fun _ _ => id⟩

theorem Respects.trans (first : before.Respects middle) (second : middle.Respects after) :
    before.Respects after where
  grows := first.grows.trans second.grows
  hushes hushes := second.hushes (first.hushes hushes)
  barred key hushed called := first.barred key hushed
    (second.barred key (hushed.grows first.grows before.othersCloseOnly_anyKey) called)

/-- A stretch without request hooks and disconnect hooks respects the departures. -/
theorem Leads.respects (leads : Leads anyKey hooks before after)
    (calm : ∀ key, ¬ hooks (.request key) ∧ ¬ hooks (.disconnect key)) : before.Respects after where
  grows := leads.grows
  hushes hushes := hushes.leads leads fun key => (calm key).2
  barred key _ := (leads.mem_calls_iff before.othersCloseOnly_anyKey (calm key).1).mp

end Exchange

namespace Dispatcher

variable {dispatcher : Dispatcher σ} {since : Key} {manager : TaskManager σ}
  {exchange : Exchange σ}

/-! ### Routing -/

/-- A frame calls the request hook of the request that it brings and cancel hooks, and no other
hook. -/
theorem Keeps.dispatchRequest_called (keeps : dispatcher.Keeps since manager exchange)
    (raw : RawRequest) {hook : Hook}
    (called : hook ∈ (dispatcher.dispatchRequest raw manager exchange).2.calls) :
    hook ∈ exchange.calls ∨ hook = .request exchange.channels.length ∨
      ∃ key, hook = .cancel key := by
  rcases dispatcher.dispatchRequest_cases dispatcher.closesOnly_anyKey raw manager exchange with
    ⟨request, notice, _, same⟩ | ⟨_, after, same, leads⟩
  · rw [same] at called
    have leads := keeps.route_leads dispatcher.closesOnly_anyKey request notice
    rcases leads.called (Exchange.othersCloseOnly_anyKey _) called with before | new
    · rw [Exchange.log_calls] at before
      exact .inl before
    · exact .inr new
  · rw [same] at called
    exact .inl ((leads.mem_calls_iff exchange.othersCloseOnly_anyKey id).mp called)

theorem Keeps.dispatchRequest_respects (keeps : dispatcher.Keeps since manager exchange)
    (raw : RawRequest) : exchange.Respects (dispatcher.dispatchRequest raw manager exchange).2 := by
  have grows := keeps.dispatchRequest_grows dispatcher.closesOnly_anyKey raw
  refine ⟨grows, fun hushes => ?_, fun key hushed called => ?_⟩
  · refine hushes.grows grows exchange.othersCloseOnly_anyKey fun key called => ?_
    simpa using keeps.dispatchRequest_called raw called
  · -- the hook that is new belongs to the request that has just come
    rcases keeps.dispatchRequest_called raw called with before | new | ⟨_, other⟩
    · exact before
    · cases new
      exact absurd hushed.enrolled (Nat.lt_irrefl _)
    · cases other

theorem Keeps.routeAll_respects (keeps : dispatcher.Keeps since manager exchange)
    (raws : List RawRequest) :
    exchange.Respects (dispatcher.routeAll raws (manager, exchange)).2 := by
  induction raws generalizing manager exchange with
  | nil => exact .refl exchange
  | cons raw raws ih =>
      exact (keeps.dispatchRequest_respects raw).trans (ih (keeps.dispatchRequest raw))

/-! ### Leaving -/

/-- A client that leaves is hushed, and no request hook is called. -/
theorem Keeps.disconnect_respects (keeps : dispatcher.Keeps since manager exchange)
    (client : ClientId) : exchange.Respects (manager.disconnect client exchange).2 := by
  have leads : Leads anyKey (fun hook => ∃ key, hook = .disconnect key) exchange
      (manager.disconnect client exchange).2 :=
    keeps.accounts.disconnect_leads (tasksCloseOnly_anyKey _) client fun _ _ _ => trivial
  refine ⟨leads.grows, fun hushes => keeps.accounts.disconnect_hushes hushes client, fun key _ => ?_⟩
  exact (leads.mem_calls_iff exchange.othersCloseOnly_anyKey (by simp)).mp

theorem Keeps.leaveAll_respects (keeps : dispatcher.Keeps since manager exchange)
    (clients : List ClientId) :
    exchange.Respects (Dispatcher.leaveAll clients (manager, exchange)).2 := by
  induction clients generalizing manager exchange with
  | nil => exact .refl exchange
  | cons client clients ih =>
      have log : Leads anyKey noHook exchange (exchange.log (.clientDisconnected client)) :=
        (Leads.refl exchange).log _
      have logged := keeps.log (.clientDisconnected client)
      exact ((log.respects fun _ => ⟨id, id⟩).trans (logged.disconnect_respects client)).trans
        (ih (logged.disconnect client))

/-- A client that has left stays away while others leave. -/
theorem Keeps.leaveAll_hasLeft (keeps : dispatcher.Keeps since manager exchange)
    {client : ClientId} (left : manager.HasLeft client) (clients : List ClientId) :
    (Dispatcher.leaveAll clients (manager, exchange)).1.HasLeft client := by
  induction clients generalizing manager exchange with
  | nil => exact left
  | cons other clients ih =>
      have logged := keeps.log (.clientDisconnected other)
      exact ih (logged.disconnect other) (logged.accounts.hasLeft fun _ => left)

/-! ### Running -/

/-- Running the queue calls no request that was hushed. -/
theorem Keeps.runAll_respects (keeps : dispatcher.Keeps since manager exchange) :
    exchange.Respects (manager.runAll exchange).2 := by
  have ran := keeps.accounts.runAll_leads (tasksCloseOnly_anyKey _)
  exact ⟨ran.grows, fun hushes => hushes.leads ran (by simp),
    fun key hushed => keeps.accounts.runAll_called hushed.left⟩

end Dispatcher

end RpcDispatch
