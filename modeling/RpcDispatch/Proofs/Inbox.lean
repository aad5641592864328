import Mathlib.Tactic.SplitIfs
import RpcDispatch.Inbox

/-
This file follows an inbox through any interleaving of the producers that notify it and the
consumer that empties it in one of four ways.  Each kind of events keeps its order from one end to
the other, and nothing is lost or repeated between.
-/

namespace RpcDispatch

namespace Arrival

def connection? : Arrival → Option ClientId
  | .connection client => some client
  | .disconnection _ | .request _ => none

def disconnection? : Arrival → Option ClientId
  | .disconnection client => some client
  | .connection _ | .request _ => none

def request? : Arrival → Option RawRequest
  | .request raw => some raw
  | .connection _ | .disconnection _ => none

end Arrival

namespace Inbox

theorem isEmpty_iff {inbox : Inbox} : inbox.isEmpty = true ↔ inbox = .empty := by
  obtain ⟨connected, disconnected, requests⟩ := inbox
  simp [isEmpty, empty, and_assoc]

theorem wait?_eq_some {inbox : Inbox} {exchanged : Inbox × Inbox} :
    inbox.wait? = some exchanged ↔ inbox.isEmpty = false ∧ exchanged = (inbox, .empty) := by
  unfold wait?
  split_ifs with none
  · simp [none]
  · simp [none, poll, eq_comm]

/-- Waiting for a limited time takes everything as well: what it gives up on is empty. -/
theorem waitTimeout_eq (inbox : Inbox) : inbox.waitTimeout = (inbox, .empty) := by
  unfold waitTimeout wait?
  split_ifs with none
  · rw [isEmpty_iff.mp none]
    rfl
  · rfl

/-! ### Interleavings -/

/-- The ways to empty an inbox. -/
inductive Way where
  | poll
  | wait
  | waitTimeout
  | clear
  deriving DecidableEq

/-- One time that the consumer emptied the inbox. -/
structure Handover where
  way : Way
  /-- The events that were pending. -/
  pending : Inbox
  /-- The events that were returned, or discarded where the inbox was cleared. -/
  taken : Inbox

/-- An inbox after some steps, each of which is done under its lock.  The producers have notified it
of the arrivals in this order, and the consumer has emptied it these times.  Any number of producers
in any interleaving is such an order. -/
inductive Trade : List Arrival → List Handover → Inbox → Prop where
  | start : Trade [] [] .empty
  | notify {notified : List Arrival} {handovers : List Handover} {inbox : Inbox}
      (arrival : Arrival) (trade : Trade notified handovers inbox) :
      Trade (notified ++ [arrival]) handovers (inbox.push arrival)
  | poll {notified : List Arrival} {handovers : List Handover} {inbox : Inbox}
      (trade : Trade notified handovers inbox) :
      Trade notified (handovers ++ [⟨.poll, inbox, inbox.poll.1⟩]) inbox.poll.2
  | wait {notified : List Arrival} {handovers : List Handover} {inbox taken left : Inbox}
      (trade : Trade notified handovers inbox) (woken : inbox.wait? = some (taken, left)) :
      Trade notified (handovers ++ [⟨.wait, inbox, taken⟩]) left
  | waitTimeout {notified : List Arrival} {handovers : List Handover} {inbox : Inbox}
      (trade : Trade notified handovers inbox) :
      Trade notified (handovers ++ [⟨.waitTimeout, inbox, inbox.waitTimeout.1⟩])
        inbox.waitTimeout.2
  | clear {notified : List Arrival} {handovers : List Handover} {inbox : Inbox}
      (trade : Trade notified handovers inbox) :
      Trade notified (handovers ++ [⟨.clear, inbox, inbox⟩]) inbox.clear

/-- A kind of events: where an inbox keeps them, and which arrivals are of the kind. -/
structure Kind {α : Type} (view : Inbox → List α) (part : Arrival → Option α) : Prop where
  empty : view .empty = []
  push : ∀ inbox arrival, view (inbox.push arrival) = view inbox ++ (part arrival).toList

theorem kind_connected : Kind connected Arrival.connection? where
  empty := rfl
  push _ arrival := by cases arrival <;> simp [Inbox.push, Arrival.connection?]

theorem kind_disconnected : Kind disconnected Arrival.disconnection? where
  empty := rfl
  push _ arrival := by cases arrival <;> simp [Inbox.push, Arrival.disconnection?]

theorem kind_requests : Kind requests Arrival.request? where
  empty := rfl
  push _ arrival := by cases arrival <;> simp [Inbox.push, Arrival.request?]

variable {notified : List Arrival} {handovers : List Handover} {inbox : Inbox}

/-- An inbox is emptied at once. -/
theorem Trade.taken_eq (trade : Trade notified handovers inbox) :
    ∀ handover ∈ handovers, handover.taken = handover.pending ∧
      (handover.way = .wait → handover.taken.isEmpty = false) := by
  have later {earlier : List Handover} {last : Handover}
      (before : ∀ handover ∈ earlier, handover.taken = handover.pending ∧
        (handover.way = .wait → handover.taken.isEmpty = false))
      (all : last.taken = last.pending) (woken : last.way = .wait → last.taken.isEmpty = false) :
      ∀ handover ∈ earlier ++ [last], handover.taken = handover.pending ∧
        (handover.way = .wait → handover.taken.isEmpty = false) := by
    rw [List.forall_mem_append, List.forall_mem_singleton]
    exact ⟨before, all, woken⟩
  induction trade with
  | start => exact nofun
  | notify arrival _ ih => exact ih
  | poll _ ih => exact later ih rfl nofun
  | wait _ woken ih =>
      obtain ⟨some, same⟩ := wait?_eq_some.mp woken
      cases same
      exact later ih rfl fun _ => some
  | @waitTimeout _ _ inbox _ ih =>
      exact later ih (congrArg Prod.fst inbox.waitTimeout_eq) nofun
  | clear _ ih => exact later ih rfl nofun

/-- What was taken of a kind, and then what is pending, is what was notified of it. -/
theorem Trade.kept {α : Type} {view : Inbox → List α} {part : Arrival → Option α}
    (kind : Kind view part) (trade : Trade notified handovers inbox) :
    handovers.flatMap (fun handover => view handover.taken) ++ view inbox =
      notified.filterMap part := by
  -- taking moves the pending events to those that were taken
  have moved {earlier : List Handover} {way : Way} {pending : Inbox} {whole : List α}
      (before : earlier.flatMap (fun handover => view handover.taken) ++ view pending = whole) :
      (earlier ++ [(⟨way, pending, pending⟩ : Handover)]).flatMap
        (fun handover => view handover.taken) ++ view .empty = whole := by
    rw [kind.empty, List.append_nil, List.flatMap_append, List.flatMap_singleton, before]
  induction trade with
  | start => exact kind.empty
  | notify arrival _ ih =>
      rw [kind.push, ← List.append_assoc, ih, List.filterMap_append]
      cases found : part arrival <;> simp [found]
  | poll _ ih => exact moved ih
  | wait _ woken ih =>
      obtain ⟨-, same⟩ := wait?_eq_some.mp woken
      cases same
      exact moved ih
  | @waitTimeout _ _ inbox _ ih =>
      rw [waitTimeout_eq]
      exact moved ih
  | clear _ ih => exact moved ih

/-- Nothing is lost, repeated or put in another order.  For each of the three kinds, the events of
all handovers in their order, and then those that are pending, are the ones that were notified in
the order of notification.  A handover takes all that is pending, so that waiting for a limited time
brings nothing only if nothing is pending when it gives up; waiting without limit goes on as long as
that is so, and always brings something. -/
theorem Trade.events_in_order (trade : Trade notified handovers inbox) :
    handovers.flatMap (·.taken.connected) ++ inbox.connected =
        notified.filterMap Arrival.connection? ∧
      handovers.flatMap (·.taken.requests) ++ inbox.requests =
        notified.filterMap Arrival.request? ∧
      handovers.flatMap (·.taken.disconnected) ++ inbox.disconnected =
        notified.filterMap Arrival.disconnection? ∧
      (∀ handover ∈ handovers, handover.taken = handover.pending) ∧
      (∀ handover ∈ handovers, handover.way = .waitTimeout →
        handover.taken.isEmpty = true → handover.pending.isEmpty = true) ∧
      (∀ handover ∈ handovers, handover.way = .wait → handover.taken.isEmpty = false) ∧
      (inbox.wait?.isSome ↔ inbox.isEmpty = false) := by
  have taken := trade.taken_eq
  refine ⟨trade.kept kind_connected, trade.kept kind_requests, trade.kept kind_disconnected,
    fun handover member => (taken handover member).1, fun handover member _ none => ?_,
    fun handover member => (taken handover member).2, ?_⟩
  · rw [← (taken handover member).1]
    exact none
  · rw [Option.isSome_iff_exists]
    constructor
    · rintro ⟨exchanged, woken⟩
      exact (wait?_eq_some.mp woken).1
    · intro some
      exact ⟨_, wait?_eq_some.mpr ⟨some, rfl⟩⟩

/-- A connection is waited for, then nothing comes for a while; a frame and the connection of
another client are discarded, and a disconnection is left. -/
theorem Trade.events_in_order_discarded :
    let frame : RawRequest := ⟨⟨1⟩, [123, 125], .text⟩
    let handovers : List Handover := [⟨.wait, ⟨[⟨1⟩], [], []⟩, ⟨[⟨1⟩], [], []⟩⟩,
      ⟨.waitTimeout, .empty, .empty⟩, ⟨.clear, ⟨[⟨2⟩], [], [frame]⟩, ⟨[⟨2⟩], [], [frame]⟩⟩]
    Trade [.connection ⟨1⟩, .request frame, .connection ⟨2⟩, .disconnection ⟨1⟩] handovers
        ⟨[], [⟨1⟩], []⟩ ∧
      handovers.flatMap (·.taken.connected) ++ [] = [⟨1⟩, ⟨2⟩] ∧
      handovers.flatMap (·.taken.requests) ++ [] = [frame] ∧
      handovers.flatMap (·.taken.disconnected) ++ [⟨1⟩] = [⟨1⟩] := by
  intro frame handovers
  have awaited := (Trade.start.notify (.connection ⟨1⟩)).wait rfl
  have trade : Trade [.connection ⟨1⟩, .request frame, .connection ⟨2⟩, .disconnection ⟨1⟩]
      handovers ⟨[], [⟨1⟩], []⟩ :=
    ((awaited.waitTimeout.notify (.request frame)).notify (.connection ⟨2⟩)).clear.notify
      (.disconnection ⟨1⟩)
  obtain ⟨connected, requests, disconnected, -⟩ := Trade.events_in_order trade
  exact ⟨trade, connected, requests, disconnected⟩

end Inbox

end RpcDispatch
