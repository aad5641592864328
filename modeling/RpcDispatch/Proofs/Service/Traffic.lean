import Mathlib.Data.List.Nodup
import RpcDispatch.Daemon
import RpcDispatch.Proofs.Service.Iteration
import RpcDispatch.Proofs.Wire.Reading

/-
This file follows the events of connections through the inbox.  Each handler runs on a thread of
its own, and the inbox forgets the order between kinds of events, but the dispatcher handles what
one connection reports in the order in which it is reported.
-/

namespace RpcDispatch

variable {σ : Type}

namespace Wire

/-- What a connection reports: that it is there, each of its frames, and that it is gone. -/
def story (client : ClientId) (frames : List Frame) : List Arrival :=
  .connection client :: frames.map (fun frame => .request ⟨client, frame.payload, frame.framing⟩)
    ++ [.disconnection client]

/-- The arrivals among the steps of a connection. -/
def arrivalsIn (steps : List Step) : List Arrival :=
  steps.filterMap fun
    | .arrived arrival => some arrival
    | .reported _ => none

@[simp] theorem arrivalsIn_append (first second : List Step) :
    arrivalsIn (first ++ second) = arrivalsIn first ++ arrivalsIn second :=
  List.filterMap_append

/-- The arrivals of a served connection are its opening, its frames and its closing. -/
theorem serve_arrivals (client : ClientId) (limit : Nat) (source : Source) :
    arrivalsIn (serve client limit source).steps =
      story client (Frame.readAll limit source).frames := by
  have requests (frames : List Frame) :
      arrivalsIn (frames.map fun frame =>
        Step.arrived (.request ⟨client, frame.payload, frame.framing⟩)) =
      frames.map fun frame => .request ⟨client, frame.payload, frame.framing⟩ := by
    simp [arrivalsIn, List.filterMap_map]
  have faults (fault : Option FrameFault) :
      arrivalsIn (fault.toList.map fun fault =>
        Step.reported (.frameFailed client fault.message)) = [] := by
    cases fault <;> rfl
  simp only [serve, arrivalsIn_append, requests, faults, story]
  simp [arrivalsIn]

/-- Every arrival of the story of a client is from that client. -/
theorem story_client {client : ClientId} {frames : List Frame} {arrival : Arrival}
    (member : arrival ∈ story client frames) : arrival.client = client := by
  simp only [story, List.cons_append, List.mem_cons, List.mem_append, List.mem_map,
    List.not_mem_nil, or_false] at member
  rcases member with rfl | ⟨frame, _, rfl⟩ | rfl <;> rfl

/-- A connection reports its events in the order of their kinds. -/
theorem story_ranks (client : ClientId) (frames : List Frame) :
    (story client frames).Pairwise fun first second => first.rank ≤ second.rank := by
  simp only [story, List.cons_append, List.pairwise_cons, List.pairwise_append, List.pairwise_map]
  refine ⟨?_, ?_, by simp, ?_⟩
  · intro arrival _
    exact Nat.zero_le _
  · exact List.pairwise_of_forall fun _ _ => Nat.le_refl _
  · intro arrival member last final
    obtain ⟨frame, _, rfl⟩ := List.mem_map.mp member
    rw [List.mem_singleton.mp final]
    exact Nat.le_succ 1

/-- The clients of few connections have different numbers. -/
theorem clientAt_inj {first second : Nat} (low : first + 1 < clientBound)
    (high : second + 1 < clientBound) (same : clientAt first = clientAt second) :
    first = second := by
  simp only [clientAt, ClientId.mk.injEq, Nat.mod_eq_of_lt low, Nat.mod_eq_of_lt high] at same
  exact Nat.succ.inj same

end Wire

/-! ### Connections -/

/-- A registered connection: what it delivers, and how many steps its handler has taken. -/
structure Link where
  client : ClientId
  source : Wire.Source
  taken : Nat

namespace Link

/-- All that the handler will do. -/
def steps (limit : Nat) (link : Link) : List Wire.Step :=
  (Wire.serve link.client limit link.source).steps

/-- The events that the handler has reported so far. -/
def reported (limit : Nat) (link : Link) : List Arrival :=
  Wire.arrivalsIn ((link.steps limit).take link.taken)

/-- Whether the handler has taken its last step. -/
def HasEnded (limit : Nat) (link : Link) : Prop :=
  (link.steps limit).length ≤ link.taken

/-- The handler after one more step. -/
def advance (link : Link) : Link :=
  { link with taken := link.taken + 1 }

theorem reported_start (limit : Nat) (client : ClientId) (source : Wire.Source) :
    (⟨client, source, 0⟩ : Link).reported limit = [] := rfl

/-- A step of the handler reports one event at most. -/
theorem reported_advance {limit : Nat} {link : Link} {step : Wire.Step}
    (next : (link.steps limit)[link.taken]? = some step) :
    link.advance.reported limit = link.reported limit ++ Wire.arrivalsIn [step] := by
  have split : (link.steps limit).take (link.taken + 1) =
      (link.steps limit).take link.taken ++ [step] := by
    rw [List.take_add_one, next]
    rfl
  rw [reported, reported, ← Wire.arrivalsIn_append, ← split]
  rfl

/-- What has been reported is the beginning of the whole story, and all of it at the end. -/
theorem reported_prefix (limit : Nat) (link : Link) :
    link.reported limit <+:
      Wire.story link.client (Wire.Frame.readAll limit link.source).frames := by
  rw [← Wire.serve_arrivals]
  exact (List.take_prefix _ _).filterMap _

/-- A link that has ended has reported its whole story. -/
theorem reported_eq {limit : Nat} {link : Link} (ended : link.HasEnded limit) :
    link.reported limit =
      Wire.story link.client (Wire.Frame.readAll limit link.source).frames := by
  rw [← Wire.serve_arrivals, reported, List.take_of_length_le ended]
  rfl

/-- An event that is reported next is the client's own, and of no earlier kind than those before. -/
theorem next_arrival {limit : Nat} {link : Link} {arrival : Arrival}
    (next : (link.steps limit)[link.taken]? = some (.arrived arrival)) :
    arrival.client = link.client ∧
      ∀ earlier ∈ link.reported limit, earlier.rank ≤ arrival.rank := by
  have longer := link.advance.reported_prefix limit
  rw [reported_advance next] at longer
  constructor
  · exact Wire.story_client (longer.subset (by simp [Wire.arrivalsIn]))
  · intro earlier member
    have sorted := (Wire.story_ranks link.client
      (Wire.Frame.readAll limit link.source).frames).sublist longer.sublist
    exact (List.pairwise_append.mp sorted).2.2 earlier member arrival (by simp [Wire.arrivalsIn])

end Link

namespace Service

/-- A service and the connections that were registered for it, in any interleaving of their
handlers with its iterations.  So many numbers were given to clients, and these events were taken
from the inbox. -/
inductive Traffic (dispatcher : Dispatcher σ) (exchange : Exchange σ) (limit : Nat) :
    Nat → List Link → List Arrival → Service σ → Prop where
  | create : Traffic dispatcher exchange limit 0 [] [] (.create dispatcher exchange)
  | accept {count : Nat} {links : List Link} {taken : List Arrival} {service : Service σ}
      (source : Wire.Source) (traffic : Traffic dispatcher exchange limit count links taken service) :
      Traffic dispatcher exchange limit (count + 1) (links ++ [⟨Wire.clientAt count, source, 0⟩])
        taken service
  /-- A connection without a second handle has a number, but nothing is reported for it. -/
  | refuse {count : Nat} {links : List Link} {taken : List Arrival} {service : Service σ}
      (traffic : Traffic dispatcher exchange limit count links taken service) :
      Traffic dispatcher exchange limit (count + 1) links taken service
  | step {count : Nat} {front rest : List Link} {link : Link} {taken : List Arrival}
      {service : Service σ} {step : Wire.Step}
      (next : (link.steps limit)[link.taken]? = some step)
      (traffic : Traffic dispatcher exchange limit count (front ++ link :: rest) taken service) :
      Traffic dispatcher exchange limit count (front ++ link.advance :: rest) taken
        (Daemon.observe service step)
  | act {count : Nat} {links : List Link} {taken : List Arrival} {service : Service σ}
      (act : Act σ) (traffic : Traffic dispatcher exchange limit count links taken service) :
      Traffic dispatcher exchange limit count links taken
        { service with exchange := service.exchange.perform act }
  | poll {count : Nat} {links : List Link} {taken : List Arrival} {service : Service σ}
      (traffic : Traffic dispatcher exchange limit count links taken service) :
      Traffic dispatcher exchange limit count links (taken ++ service.inbox.order) service.poll
  | wait {count : Nat} {links : List Link} {taken : List Arrival} {service next : Service σ}
      (traffic : Traffic dispatcher exchange limit count links taken service)
      (woken : service.wait? = some next) :
      Traffic dispatcher exchange limit count links (taken ++ service.inbox.order) next
  | waitTimeout {count : Nat} {links : List Link} {taken : List Arrival} {service : Service σ}
      (traffic : Traffic dispatcher exchange limit count links taken service) :
      Traffic dispatcher exchange limit count links (taken ++ service.inbox.order)
        service.waitTimeout

/-- The clients are told apart, every event is of one of them, and what was taken of each, with what
is in the inbox, is what its handler has reported. -/
structure Ordered (limit count : Nat) (links : List Link) (taken : List Arrival)
    (inbox : Inbox) : Prop where
  numbered : ∀ client ∈ links.map Link.client, ∃ index < count, client = Wire.clientAt index
  distinct : (links.map Link.client).Nodup
  known : ∀ arrival ∈ taken ++ inbox.order, arrival.client ∈ links.map Link.client
  reported : ∀ link ∈ links,
    arrivalsOf link.client (taken ++ inbox.order) = link.reported limit

namespace Ordered

variable {limit count : Nat} {links front rest : List Link} {link : Link}
  {taken : List Arrival} {inbox : Inbox}

theorem empty (limit : Nat) : Ordered limit 0 [] [] .empty :=
  ⟨by simp, by simp, by simp, by simp⟩

theorem refuse (ordered : Ordered limit count links taken inbox) :
    Ordered limit (count + 1) links taken inbox :=
  { ordered with
    numbered := fun client member => by
      obtain ⟨index, low, same⟩ := ordered.numbered client member
      exact ⟨index, Nat.lt_succ_of_lt low, same⟩ }

/-- A new connection has a number of its own, and has reported nothing. -/
theorem accept (ordered : Ordered limit count links taken inbox)
    (bound : count + 1 < Wire.clientBound) (source : Wire.Source) :
    Ordered limit (count + 1) (links ++ [⟨Wire.clientAt count, source, 0⟩]) taken inbox := by
  have fresh : Wire.clientAt count ∉ links.map Link.client := by
    intro member
    obtain ⟨index, low, same⟩ := ordered.numbered _ member
    have equal := Wire.clientAt_inj bound (by omega) same
    omega
  have clients : (links ++ [(⟨Wire.clientAt count, source, 0⟩ : Link)]).map Link.client =
      links.map Link.client ++ [Wire.clientAt count] := by simp
  refine ⟨?_, ?_, ?_, ?_⟩
  · intro client member
    rw [clients, List.mem_append, List.mem_singleton] at member
    rcases member with old | rfl
    · exact ordered.refuse.numbered client old
    · exact ⟨count, Nat.lt_succ_self _, rfl⟩
  · rw [clients, List.nodup_append]
    refine ⟨ordered.distinct, by simp, ?_⟩
    rintro old member _ single rfl
    exact fresh (List.mem_singleton.mp single ▸ member)
  · intro arrival member
    rw [clients]
    exact List.mem_append_left _ (ordered.known arrival member)
  · intro link member
    rcases List.mem_append.mp member with old | new
    · exact ordered.reported link old
    · rw [List.mem_singleton.mp new, Link.reported_start]
      refine arrivalsOf_eq_nil fun arrival known (same : arrival.client = Wire.clientAt count) => ?_
      exact fresh (same ▸ ordered.known arrival known)

/-- Taking the inbox moves its events to those that were taken. -/
theorem exchange (ordered : Ordered limit count links taken inbox) :
    Ordered limit count links (taken ++ inbox.order) .empty :=
  ⟨ordered.numbered, ordered.distinct, by simpa using ordered.known,
    by simpa using ordered.reported⟩

/-- A link that advances keeps its client. -/
theorem advance_clients (front rest : List Link) (link : Link) :
    (front ++ link.advance :: rest).map Link.client =
      (front ++ link :: rest).map Link.client := by
  simp [Link.advance]

/-- A step of a handler that only writes to the log reports nothing. -/
theorem report (ordered : Ordered limit count (front ++ link :: rest) taken inbox)
    {notice : Log.Notice} (next : (link.steps limit)[link.taken]? = some (.reported notice)) :
    Ordered limit count (front ++ link.advance :: rest) taken inbox := by
  have clients := advance_clients front rest link
  refine ⟨clients ▸ ordered.numbered, clients ▸ ordered.distinct, clients ▸ ordered.known, ?_⟩
  intro current member
  rw [List.mem_append, List.mem_cons] at member
  rcases member with old | rfl | old
  · exact ordered.reported current (by simp [old])
  · rw [Link.reported_advance next]
    exact (ordered.reported link (by simp)).trans (List.append_nil _).symm
  · exact ordered.reported current (by simp [old])

/-- A step that reports an event puts it last among those of its client. -/
theorem arrive (ordered : Ordered limit count (front ++ link :: rest) taken inbox)
    {arrival : Arrival} (next : (link.steps limit)[link.taken]? = some (.arrived arrival)) :
    Ordered limit count (front ++ link.advance :: rest) taken (inbox.push arrival) := by
  obtain ⟨own, last⟩ := Link.next_arrival next
  have clients := advance_clients front rest link
  have distinct := ordered.distinct
  rw [List.map_append, List.map_cons, List.nodup_middle, List.nodup_cons, ← List.map_append]
    at distinct
  -- the other connections see nothing of it
  have other : ∀ old ∈ front ++ rest, old ∈ front ++ link :: rest →
      arrivalsOf old.client (taken ++ (inbox.push arrival).order) = old.reported limit := by
    intro old member listed
    have apart : arrival.client ≠ old.client := fun same =>
      distinct.1 (List.mem_map.mpr ⟨old, member, same.symm.trans own⟩)
    rw [← ordered.reported old listed, arrivalsOf_append, arrivalsOf_append,
      Inbox.order_push_other apart]
  refine ⟨clients ▸ ordered.numbered, clients ▸ ordered.distinct, ?_, ?_⟩
  · intro event member
    rw [clients]
    rw [List.mem_append, Inbox.mem_order_push, ← or_assoc, ← List.mem_append] at member
    rcases member with before | rfl
    · exact ordered.known event before
    · rw [own]
      exact List.mem_map_of_mem (by simp)
  · intro current member
    rw [List.mem_append, List.mem_cons] at member
    rcases member with old | rfl | old
    · exact other current (by simp [old]) (by simp [old])
    · have before := ordered.reported link (by simp)
      rw [arrivalsOf_append] at before
      have sorted : ∀ earlier ∈ arrivalsOf link.client inbox.order,
          earlier.rank ≤ arrival.rank := fun earlier member =>
        last earlier (before ▸ List.mem_append_right _ member)
      rw [Link.reported_advance next, ← before, arrivalsOf_append, List.append_assoc]
      exact congrArg _ (Inbox.order_push_own own sorted)
    · exact other current (by simp [old]) (by simp [old])

end Ordered

variable {dispatcher : Dispatcher σ} {exchange : Exchange σ} {limit count : Nat} {links : List Link}
  {taken : List Arrival} {service : Service σ}

/-- A handler may take several steps without a break. -/
theorem Traffic.steps {front rest : List Link} {link : Link}
    (traffic : Traffic dispatcher exchange limit count (front ++ link :: rest) taken service)
    (steps later : List Wire.Step)
    (next : (link.steps limit).drop link.taken = steps ++ later) :
    Traffic dispatcher exchange limit count
      (front ++ { link with taken := link.taken + steps.length } :: rest) taken
      (steps.foldl Daemon.observe service) := by
  induction steps generalizing link service with
  | nil => exact traffic
  | cons step steps ih =>
      have first : (link.steps limit)[link.taken]? = some step := by
        rw [← List.head?_drop, next]
        rfl
      have others : (link.advance.steps limit).drop link.advance.taken = steps ++ later := by
        have tail := congrArg List.tail next
        rw [List.tail_drop] at tail
        exact tail
      have last := ih (traffic.step first) others
      simpa only [Link.advance, List.length_cons, List.foldl_cons, Nat.add_assoc, Nat.add_comm 1]
        using last

/-- The events of all connections stay in order while the numbers of clients do not wrap. -/
theorem Traffic.ordered (traffic : Traffic dispatcher exchange limit count links taken service)
    (bound : count < Wire.clientBound) : Ordered limit count links taken service.inbox := by
  induction traffic with
  | create => exact .empty limit
  | accept source _ ih => exact (ih (Nat.lt_of_succ_lt bound)).accept bound source
  | refuse _ ih => exact (ih (Nat.lt_of_succ_lt bound)).refuse
  | @step _ _ _ _ _ _ step next _ ih =>
      cases step with
      | arrived arrival => exact (ih bound).arrive next
      | reported notice => exact (ih bound).report next
  | act _ _ ih => exact ih bound
  | poll _ ih => exact (ih bound).exchange
  | wait _ woken ih =>
      rw [wait?_eq_poll woken]
      exact (ih bound).exchange
  | waitTimeout _ ih =>
      rw [waitTimeout_eq_poll]
      exact (ih bound).exchange

/-- The dispatcher has handled all that was taken, in this order. -/
theorem Traffic.handling (traffic : Traffic dispatcher exchange limit count links taken service) :
    service.dispatcher = dispatcher ∧
      service.dispatcher.Handling (.empty, exchange) taken (service.manager, service.exchange) := by
  induction traffic with
  | create => exact ⟨rfl, .start⟩
  | accept source _ ih => exact ih
  | refuse _ ih => exact ih
  | @step _ _ _ _ _ _ step next _ ih =>
      cases step with
      | arrived arrival => exact ⟨ih.1, ih.2.log arrival.notice⟩
      | reported notice => exact ⟨ih.1, ih.2.log notice⟩
  | act act _ ih => exact ⟨ih.1, ih.2.act act⟩
  | poll _ ih => exact ⟨ih.1, poll_handling ih.2⟩
  | wait _ woken ih =>
      rw [wait?_eq_poll woken]
      exact ⟨ih.1, poll_handling ih.2⟩
  | waitTimeout _ ih =>
      rw [waitTimeout_eq_poll]
      exact ⟨ih.1, poll_handling ih.2⟩

/-- The order and completeness of what connections report.  The clients have different numbers.  The
tasks and the exchange of the service are what the dispatcher makes of the events that were taken,
handled one by one in this order, and the next iteration handles those in the inbox after them.  What
has been handled of a connection begins with the connection itself, goes on with the readable frames
in their order, and ends with the disconnection; together with what is still in the inbox it is all
that the handler has reported, and once the handler has ended the next iteration completes it. -/
theorem connections_in_order
    (traffic : Traffic dispatcher exchange limit count links taken service)
    (bound : count < Wire.clientBound) :
    let next := taken ++ service.inbox.order
    (links.map Link.client).Nodup ∧
      dispatcher.Handling (.empty, exchange) taken (service.manager, service.exchange) ∧
      dispatcher.Handling (.empty, exchange) next (service.poll.manager, service.poll.exchange) ∧
      ∀ link ∈ links, ∃ frames fault rest, Wire.Reads limit link.source frames fault rest ∧
        let whole := Wire.story link.client frames
        arrivalsOf link.client taken <+: whole ∧
          arrivalsOf link.client next = link.reported limit ∧
          (link.HasEnded limit → arrivalsOf link.client next = whole) := by
  intro next
  have ordered := traffic.ordered bound
  obtain ⟨rfl, handling⟩ := traffic.handling
  refine ⟨ordered.distinct, handling, poll_handling handling, fun link member => ?_⟩
  have reported := ordered.reported link member
  refine ⟨_, _, _, Wire.Frame.readAll_reads limit link.source, ?_, reported, fun ended => ?_⟩
  · refine List.IsPrefix.trans ?_ (link.reported_prefix limit)
    rw [← reported, arrivalsOf_append]
    exact List.prefix_append _ _
  · exact reported.trans (Link.reported_eq ended)

/-- A connection with one frame whose handler has taken some steps. -/
def letterLink (taken : Nat) : Link :=
  ⟨Wire.clientAt 0, .ofBytes (Wire.textFrame "letter").encode, taken⟩

/-- A dispatcher without entrypoints. -/
def letterDispatcher : Dispatcher Unit :=
  ⟨builtinRegistry, none⟩

/-- An exchange in which every text arrives. -/
def letterExchange : Exchange Unit :=
  .start () fun _ _ => none

/-- A service that takes the connection before its frame comes, and then hears the rest. -/
def letterService : Service Unit :=
  let steps := (letterLink 0).steps 64
  (steps.drop 2).foldl Daemon.observe
    ((steps.take 2).foldl Daemon.observe (.create letterDispatcher letterExchange)).poll

/-- All three events have been handled in their order when the inbox has been taken, and the frame
was answered. -/
theorem connections_in_order_letter :
    (letterLink 5).HasEnded 64 ∧ ∃ frames fault rest,
      Wire.Reads 64 (letterLink 0).source frames fault rest ∧
        letterDispatcher.Handling (.empty, letterExchange) (Wire.story (Wire.clientAt 0) frames)
          (letterService.poll.manager, letterService.poll.exchange) ∧
        letterService.poll.exchange.deliveries = [⟨.direct, Wire.clientAt 0,
          Rpc.errorText .absent (.parsing
            "Failed to parse JSON request: expected value at line 1 column 1")⟩] := by
  have opened : Traffic letterDispatcher letterExchange 64 1 ([] ++ letterLink 0 :: []) []
      (.create letterDispatcher letterExchange) := .accept _ .create
  have connected := (opened.steps (((letterLink 0).steps 64).take 2)
    (((letterLink 0).steps 64).drop 2) (List.take_append_drop _ _).symm).poll
  have spoken : Traffic letterDispatcher letterExchange 64 1 ([] ++ letterLink 5 :: [])
      [.connection (Wire.clientAt 0)] letterService :=
    connected.steps (((letterLink 0).steps 64).drop 2) [] (List.append_nil _).symm
  obtain ⟨_, _, handling, whole⟩ := connections_in_order spoken (by decide)
  obtain ⟨frames, fault, rest, reads, _, _, complete⟩ := whole (letterLink 5) (by simp)
  have ended : (letterLink 5).HasEnded 64 := by
    unfold Link.HasEnded
    decide +kernel
  -- the events are all of this client
  have all : arrivalsOf (Wire.clientAt 0)
      ([.connection (Wire.clientAt 0)] ++ letterService.inbox.order) =
        [.connection (Wire.clientAt 0)] ++ letterService.inbox.order := by
    decide +kernel
  rw [← all] at handling
  exact ⟨ended, frames, fault, rest, reads, complete ended ▸ handling, by decide +kernel⟩

end Service

end RpcDispatch
