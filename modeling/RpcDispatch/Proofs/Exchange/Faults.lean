import RpcDispatch.Proofs.Exchange.Effect

/-
This file compares runs that differ only in which texts arrive.  A text that fails is reported, and
whatever else happens to the exchange is the same as if it had arrived.
-/

namespace RpcDispatch

/-- Whether a report tells of a text that failed. -/
def Log.Notice.isFault : Log.Notice → Bool
  | .undelivered _ _ => true
  | .rejectionUndelivered _ _ => true
  | _ => false

/-- An event as it would be without faults.  The report of a fault would be missing. -/
def Event.settled? : Event → Option Event
  | @Event.sent cause client text _ => some (@Event.sent cause client text none)
  | .logged thread notice => if notice.isFault then none else some (.logged thread notice)
  | .called method hook => some (.called method hook)
  | .chunk client bytes => some (.chunk client bytes)
  | .note value => some (.note value)

/-- Whether an event calls a hook or a consumer. -/
def Event.isInvocation : Event → Bool
  | .called _ _ => true
  | .chunk _ _ => true
  | _ => false

/-- A delivery can be read off an event when its fault has been forgotten. -/
theorem Event.settled?_delivery? (event : Event) :
    event.settled?.bind Event.delivery? = event.delivery? := by
  cases event with
  | logged thread notice =>
      unfold settled?
      dsimp only
      split_ifs <;> rfl
  | _ => rfl

/-- So can the calls of hooks and consumers. -/
theorem Event.settled?_isInvocation (event : Event) :
    event.settled?.filter Event.isInvocation =
      (some event).filter Event.isInvocation := by
  cases event with
  | logged thread notice =>
      unfold settled?
      dsimp only
      split_ifs <;> rfl
  | _ => rfl

namespace Exchange

variable {σ ρ : Type}

/-- Everything that happened, as it would have been without faults. -/
def settled (exchange : Exchange σ) : List Event :=
  exchange.trace.filterMap Event.settled?

/-- The calls of hooks and consumers, in order. -/
def invocations (exchange : Exchange σ) : List Event :=
  exchange.trace.filter Event.isInvocation

/-- Two exchanges that differ only in the faults of their senders, past and to come. -/
structure Matches (first second : Exchange σ) : Prop where
  state : first.state = second.state
  channels : first.channels = second.channels
  attempts : first.attempts = second.attempts
  thread : first.thread = second.thread
  others : first.others = second.others
  settled : first.settled = second.settled

/-- Two results of one operation on exchanges that match. -/
structure Agree (first second : ρ × Exchange σ) : Prop where
  result : first.1 = second.1
  exchange : first.2.Matches second.2

namespace Matches

variable {first second : Exchange σ}

/-- The same texts are handed to senders, whatever becomes of them. -/
theorem deliveries (alike : first.Matches second) : first.deliveries = second.deliveries := by
  have kept (exchange : Exchange σ) :
      exchange.settled.filterMap Event.delivery? = exchange.deliveries := by
    unfold Exchange.settled Exchange.deliveries
    rw [List.filterMap_filterMap]
    exact congrArg (exchange.trace.filterMap ·) (funext Event.settled?_delivery?)
  rw [← kept first, ← kept second, alike.settled]

/-- The same hooks and consumers are called. -/
theorem invocations (alike : first.Matches second) : first.invocations = second.invocations := by
  have kept (exchange : Exchange σ) :
      exchange.settled.filter Event.isInvocation = exchange.invocations := by
    unfold Exchange.settled Exchange.invocations
    rw [List.filter_filterMap, ← List.filterMap_eq_filter]
    exact congrArg (exchange.trace.filterMap ·) (funext Event.settled?_isInvocation)
  rw [← kept first, ← kept second, alike.settled]

theorem record (alike : first.Matches second) (event : Event) :
    (first.record event).Matches (second.record event) where
  state := alike.state
  channels := alike.channels
  attempts := alike.attempts
  thread := alike.thread
  others := alike.others
  settled := by
    show (first.trace ++ [event]).filterMap _ = (second.trace ++ [event]).filterMap _
    rw [List.filterMap_append, List.filterMap_append]
    exact congrArg (· ++ _) alike.settled

theorem log (alike : first.Matches second) (notice : Log.Notice) :
    (first.log notice).Matches (second.log notice) := by
  show (first.record (.logged first.thread notice)).Matches _
  rw [alike.thread]
  exact alike.record _

/-- The report of a fault leaves no trace. -/
theorem settled_fault (exchange : Exchange σ) {notice : Log.Notice}
    (fault : notice.isFault = true) :
    (exchange.log notice).settled = exchange.settled := by
  simp [Exchange.settled, Exchange.log, Exchange.record, Event.settled?, fault]

/-- A request gets the same key. -/
theorem enroll (alike : first.Matches second) (request : Request) :
    Agree (first.enroll request) (second.enroll request) where
  result := congrArg List.length alike.channels
  exchange := { alike with channels := congrArg (· ++ _) alike.channels }

theorem channel? (alike : first.Matches second) (key : Key) :
    first.channel? key = second.channel? key :=
  congrArg (·[key]?) alike.channels

theorem update (alike : first.Matches second) (key : Key) (change : Channel → Channel) :
    (first.update key change).Matches (second.update key change) :=
  { alike with channels := congrArg (·.modify key change) alike.channels }

/-! ### Sending -/

/-- Whatever becomes of a text, the rest is the same. -/
theorem attempt (alike : first.Matches second) (client : ClientId) (text : String)
    (cause : Cause) :
    (first.attempt client text cause).2.Matches (second.attempt client text cause).2 where
  state := alike.state
  channels := alike.channels
  attempts := congrArg (· + 1) alike.attempts
  thread := alike.thread
  others := alike.others
  settled := by
    show (first.trace ++ _).filterMap _ = (second.trace ++ _).filterMap _
    rw [List.filterMap_append, List.filterMap_append]
    exact congrArg (· ++ _) alike.settled

/-- A text and the report of its fault, if it has one. -/
theorem deliver (alike : first.Matches second) (client : ClientId) (text : String)
    (cause : Cause) (report : SendFault → Log.Notice)
    (faults : ∀ fault, (report fault).isFault = true) :
    Matches
      (match first.attempt client text cause with
        | (none, sent) => sent
        | (some fault, sent) => sent.log (report fault))
      (match second.attempt client text cause with
        | (none, sent) => sent
        | (some fault, sent) => sent.log (report fault)) := by
  have sent := alike.attempt client text cause
  have reported (exchange : Exchange σ) (fault : SendFault) :
      (exchange.log (report fault)).settled = exchange.settled :=
    settled_fault exchange (faults fault)
  generalize first.attempt client text cause = left at sent ⊢
  generalize second.attempt client text cause = right at sent ⊢
  obtain ⟨_ | leftFault, left⟩ := left <;> obtain ⟨_ | rightFault, right⟩ := right
  · exact sent
  · exact { sent with settled := sent.settled.trans (reported right rightFault).symm }
  · exact { sent with settled := (reported left leftFault).trans sent.settled }
  · exact { sent with
      settled := (reported left leftFault).trans
        (sent.settled.trans (reported right rightFault).symm) }

/-- An attempt to send is recorded, and only its fault may differ. -/
theorem send (alike : first.Matches second) (cause : Cause) (request : Request)
    (text : String) : (first.send cause request text).Matches (second.send cause request text) :=
  (alike.log _).deliver request.client text cause (.undelivered request.client) fun _ => rfl

/-- An answer whose delivery fails is the one answer all the same. -/
theorem answer (alike : first.Matches second) (key : Key) (encode : Rpc.Id → String) :
    (first.answer key encode).Matches (second.answer key encode) := by
  unfold Exchange.answer
  rw [← alike.channel? key]
  split
  · exact alike
  · dsimp only
    split_ifs
    · exact alike
    · exact alike.log _
    · exact alike.log _
    · exact (alike.update key _).send _ _ _

theorem error (alike : first.Matches second) (key : Key) (error : Rpc.Error) :
    (first.error key error).Matches (second.error key error) :=
  alike.answer key fun id => Rpc.errorText id error

/-- Whether a reply is sent depends on the channel, and not on earlier faults. -/
theorem reply (alike : first.Matches second) (key : Key) (result : Except String Json.Value) :
    (first.reply key result).Matches (second.reply key result) := by
  cases result with
  | ok value => exact alike.answer key fun id => Rpc.replyText id value
  | error fault => exact alike.error key (.internal ("Failed to serialize result: " ++ fault))

/-- So does whether progress is sent. -/
theorem progress (alike : first.Matches second) (key : Key) (operation : String)
    (amount : Float) :
    (first.progress key operation amount).Matches (second.progress key operation amount) := by
  unfold Exchange.progress
  rw [← alike.channel? key]
  split
  · exact alike
  · split_ifs
    · exact alike
    · exact alike.send _ _ _

theorem close (alike : first.Matches second) (key : Key) :
    (first.close key).Matches (second.close key) :=
  alike.update key _

/-! ### Acting -/

/-- Every act leads to exchanges that differ in faults alone. -/
theorem perform (alike : first.Matches second) (act : Act σ) :
    (first.perform act).Matches (second.perform act) := by
  cases act with
  | reply key result => exact alike.reply key result
  | error key error => exact alike.error key error
  | progress key operation amount => exact alike.progress key operation amount
  | close key => exact alike.close key
  | write state => exact { alike with state := rfl }
  | note value => exact alike.record (.note value)
  | log notice => exact alike.log notice
  | switch thread => exact { alike with thread := rfl }

/-- So does any list of acts. -/
theorem performAll (alike : first.Matches second) (acts : List (Act σ)) :
    (acts.foldl Exchange.perform first).Matches (acts.foldl Exchange.perform second) := by
  induction acts generalizing first second with
  | nil => exact alike
  | cons act acts ih => exact ih (alike.perform act)

/-- The other threads take the same turn. -/
theorem pause (alike : first.Matches second) : first.pause.Matches second.pause := by
  unfold Exchange.pause
  rw [← alike.others]
  split
  · exact alike
  · next acts others _ =>
      have begun : Matches { first with others } { second with others } :=
        { alike with others := rfl }
      exact begun.performAll acts

/-- A script reads the same and does the same. -/
theorem run (alike : first.Matches second) (script : Script σ ρ) :
    Agree (script.run first) (script.run second) := by
  induction script generalizing first second with
  | done result => exact ⟨rfl, alike⟩
  | act step next ih => exact ih (alike.pause.perform step)
  | read next ih =>
      have turn := alike.pause
      unfold Script.run
      rw [← turn.state]
      exact ih _ turn
  | look key next ih =>
      have turn := alike.pause
      unfold Script.run
      rw [← turn.channel? key]
      exact ih _ turn

/-! ### Calling -/

/-- A request hook reads the same state and ends in the same way. -/
theorem callRequest (alike : first.Matches second) (entrypoint : Entrypoint σ) (key : Key)
    (request : Request) :
    Agree (first.callRequest entrypoint key request)
      (second.callRequest entrypoint key request) :=
  (alike.record _).run _

theorem callCancel (alike : first.Matches second) (entrypoint : Entrypoint σ) (key : Key) :
    (first.callCancel entrypoint key).Matches (second.callCancel entrypoint key) :=
  ((alike.record _).run _).exchange

/-- So does a disconnect hook. -/
theorem callDisconnect (alike : first.Matches second) (entrypoint : Entrypoint σ) (key : Key) :
    Agree (first.callDisconnect entrypoint key) (second.callDisconnect entrypoint key) :=
  (alike.record _).run _

theorem callUpdate (alike : first.Matches second) (entrypoint : Entrypoint σ) :
    (first.callUpdate entrypoint).Matches (second.callUpdate entrypoint) :=
  ((alike.record _).run _).exchange

/-- A consumer ends in the same way. -/
theorem callConsumer (alike : first.Matches second) (consumer : Consumer σ) (client : ClientId)
    (bytes : Bytes) :
    Agree (first.callConsumer consumer client bytes)
      (second.callConsumer consumer client bytes) :=
  (alike.record _).run _

end Matches

end Exchange

end RpcDispatch
