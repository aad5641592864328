import Mathlib.Data.List.Basic
import RpcDispatch.Dispatch

/-
This file describes the order in which the events of an inbox are handled.  Events of several kinds
change places there, but not those of one client that come in the order of their kinds.
-/

namespace RpcDispatch

/-- The client that an arrival is about. -/
def Arrival.client : Arrival → ClientId
  | .connection client => client
  | .disconnection client => client
  | .request raw => raw.client

/-- The place of the kind among the kinds. -/
def Arrival.rank : Arrival → Nat
  | .connection _ => 0
  | .request _ => 1
  | .disconnection _ => 2

/-- The arrivals of one client. -/
def arrivalsOf (client : ClientId) (arrivals : List Arrival) : List Arrival :=
  arrivals.filter fun arrival => arrival.client = client

@[simp] theorem arrivalsOf_append (client : ClientId) (first second : List Arrival) :
    arrivalsOf client (first ++ second) = arrivalsOf client first ++ arrivalsOf client second :=
  List.filter_append ..

@[simp] theorem arrivalsOf_nil (client : ClientId) : arrivalsOf client [] = [] := rfl

theorem mem_arrivalsOf {client : ClientId} {arrival : Arrival} {arrivals : List Arrival} :
    arrival ∈ arrivalsOf client arrivals ↔ arrival ∈ arrivals ∧ arrival.client = client := by
  simp [arrivalsOf]

@[simp] theorem arrivalsOf_cons (client : ClientId) (arrival : Arrival) (arrivals : List Arrival) :
    arrivalsOf client (arrival :: arrivals) =
      if arrival.client = client then arrival :: arrivalsOf client arrivals
      else arrivalsOf client arrivals := by
  by_cases own : arrival.client = client <;> simp [arrivalsOf, own]

/-- Arrivals none of which is of the client. -/
theorem arrivalsOf_eq_nil {client : ClientId} {arrivals : List Arrival}
    (other : ∀ arrival ∈ arrivals, arrival.client ≠ client) : arrivalsOf client arrivals = [] :=
  List.filter_eq_nil_iff.mpr fun arrival member => by simpa using other arrival member

namespace Inbox

/-- The events in the order in which they are handled: kind by kind. -/
def order (inbox : Inbox) : List Arrival :=
  inbox.connected.map .connection ++ inbox.requests.map .request
    ++ inbox.disconnected.map .disconnection

@[simp] theorem order_empty : order empty = [] := rfl

theorem mem_order_push {inbox : Inbox} {arrival other : Arrival} :
    other ∈ (inbox.push arrival).order ↔ other ∈ inbox.order ∨ other = arrival := by
  cases arrival <;> simp only [order, push, List.map_append, List.map_cons, List.map_nil,
    List.mem_append, List.mem_cons, List.not_mem_nil, or_false] <;> tauto

/-- The events of other clients stay where they are. -/
theorem order_push_other {inbox : Inbox} {arrival : Arrival} {client : ClientId}
    (other : arrival.client ≠ client) :
    arrivalsOf client (inbox.push arrival).order = arrivalsOf client inbox.order := by
  cases arrival <;> simp_all [order, push, Arrival.client]

/-- An event comes last among those of its client if none of a later kind is there. -/
theorem order_push_own {inbox : Inbox} {arrival : Arrival} {client : ClientId}
    (own : arrival.client = client)
    (last : ∀ earlier ∈ arrivalsOf client inbox.order, earlier.rank ≤ arrival.rank) :
    arrivalsOf client (inbox.push arrival).order = arrivalsOf client inbox.order ++ [arrival] := by
  have none (kind : List Arrival) (listed : ∀ earlier ∈ kind, earlier ∈ inbox.order)
      (later : ∀ earlier ∈ kind, arrival.rank < earlier.rank) : arrivalsOf client kind = [] := by
    refine arrivalsOf_eq_nil fun earlier member same => ?_
    have bound := last earlier (mem_arrivalsOf.mpr ⟨listed earlier member, same⟩)
    exact Nat.not_lt_of_le bound (later earlier member)
  cases arrival with
  | connection owner =>
      have requests := none (inbox.requests.map .request) (by simp +contextual [order])
        (by simp [Arrival.rank])
      have leaving := none (inbox.disconnected.map .disconnection) (by simp +contextual [order])
        (by simp [Arrival.rank])
      simp [order, push, requests, leaving, own]
  | request raw =>
      have leaving := none (inbox.disconnected.map .disconnection) (by simp +contextual [order])
        (by simp [Arrival.rank])
      simp [order, push, leaving, own]
  | disconnection owner => simp [order, push, own]

end Inbox

namespace Dispatcher

variable {σ : Type}

/-- What the dispatcher does for one event. -/
def handle (dispatcher : Dispatcher σ) (state : TaskManager σ × Exchange σ) :
    Arrival → TaskManager σ × Exchange σ
  | .connection client => (state.1, state.2.log (.clientConnected client))
  | .request raw => dispatcher.dispatchRequest raw state.1 state.2
  | .disconnection client =>
    state.1.disconnect client (state.2.log (.clientDisconnected client))

/-- Dispatching an inbox handles its events one by one in their order. -/
theorem dispatch_eq_foldl (dispatcher : Dispatcher σ) (inbox : Inbox) (manager : TaskManager σ)
    (exchange : Exchange σ) :
    dispatcher.dispatch inbox manager exchange =
      inbox.order.foldl dispatcher.handle (manager, exchange) := by
  have connected (clients : List ClientId) (exchange : Exchange σ) :
      clients.foldl (fun state client => dispatcher.handle state (.connection client))
          (manager, exchange) =
        (manager, clients.foldl (fun exchange client =>
          exchange.log (.clientConnected client)) exchange) := by
    induction clients generalizing exchange with
    | nil => rfl
    | cons client clients ih => exact ih _
  simp only [Inbox.order, List.foldl_append, List.foldl_map, connected]
  rfl

/-- The tasks and the exchange that a dispatcher has come to, and the events that it has handled on
the way, one by one and in this order.  Between two events the queue may have been run with the
entrypoints updated after it, something may have been reported, and other threads may have acted;
nothing else changes the tasks or the exchange. -/
inductive Handling (dispatcher : Dispatcher σ) (start : TaskManager σ × Exchange σ) :
    List Arrival → TaskManager σ × Exchange σ → Prop where
  | start : Handling dispatcher start [] start
  | handle {handled : List Arrival} {state : TaskManager σ × Exchange σ} (arrival : Arrival)
      (handling : Handling dispatcher start handled state) :
      Handling dispatcher start (handled ++ [arrival]) (dispatcher.handle state arrival)
  | settle {handled : List Arrival} {state : TaskManager σ × Exchange σ}
      (handling : Handling dispatcher start handled state) :
      Handling dispatcher start handled
        ((state.1.runAll state.2).1, dispatcher.registry.update (state.1.runAll state.2).2)
  | log {handled : List Arrival} {state : TaskManager σ × Exchange σ} (notice : Log.Notice)
      (handling : Handling dispatcher start handled state) :
      Handling dispatcher start handled (state.1, state.2.log notice)
  | act {handled : List Arrival} {state : TaskManager σ × Exchange σ} (act : Act σ)
      (handling : Handling dispatcher start handled state) :
      Handling dispatcher start handled (state.1, state.2.perform act)

/-- A dispatcher may handle more events. -/
theorem Handling.handleAll {dispatcher : Dispatcher σ} {start state : TaskManager σ × Exchange σ}
    {handled : List Arrival} (handling : dispatcher.Handling start handled state)
    (arrivals : List Arrival) :
    dispatcher.Handling start (handled ++ arrivals) (arrivals.foldl dispatcher.handle state) := by
  induction arrivals generalizing handled state with
  | nil => simpa using handling
  | cons arrival arrivals ih => simpa using ih (handling.handle arrival)

end Dispatcher

end RpcDispatch
