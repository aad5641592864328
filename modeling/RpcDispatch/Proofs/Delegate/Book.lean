import Mathlib.Logic.Function.Basic
import RpcDispatch.Proofs.Delegate.Growth
import RpcDispatch.Proofs.Exchange.Answers
import RpcDispatch.Proofs.Exchange.Locality
import RpcDispatch.Proofs.Exchange.Silence

/-
This file says what the requests of a delegating method depend on.  The book of the method has its
desk, the channels and answers of its requests, and its calls.  Its scripts turn the book by functions
of the book, and everything else leaves the book as it is.
-/

namespace RpcDispatch

variable {σ ρ τ : Type}

/-! ### Scripts and acts -/

/-- A sequence runs its second part where the first one stopped. -/
theorem Script.run_bind (script : Script σ ρ) (next : ρ → Script σ τ) (exchange : Exchange σ) :
    (script.bind next).run exchange =
      (next (script.run exchange).1).run (script.run exchange).2 := by
  induction script generalizing exchange with
  | done result => rfl
  | act step rest ih => exact ih _
  | read rest ih => exact ih _ _
  | look key rest ih => exact ih _ _

/-- Answering a request does not touch the state of the application. -/
theorem Exchange.answer_state (exchange : Exchange σ) (key : Key) (encode : Rpc.Id → String) :
    (exchange.answer key encode).state = exchange.state := by
  rcases exchange.answer_cases key encode with
    same | ⟨notice, same⟩ | ⟨channel, _, _, _, _, same⟩
  · rw [same]
  · rw [same]
    rfl
  · rw [same]
    rcases Exchange.send_eq _ (.answer key) channel.request (encode channel.request.id) with
      sent | ⟨fault, sent⟩ <;> rw [sent] <;> rfl

/-- Reporting progress does not touch the state of the application. -/
theorem Exchange.progress_state (exchange : Exchange σ) (key : Key) (operation : String)
    (amount : Float) : (exchange.progress key operation amount).state = exchange.state := by
  rcases exchange.progress_cases key operation amount with same | ⟨channel, text, _, _, _, _, same⟩
  · rw [same]
  · rw [same]
    rcases Exchange.send_eq _ (.progress key) channel.request text with
      sent | ⟨fault, sent⟩ <;> rw [sent] <;> rfl

/-! ### The calls of one method -/

/-- The hook of the given method that an event calls. -/
def Event.hookOf? (method : String) : Event → Option Hook
  | .called name hook => if name = method then some hook else none
  | _ => none

/-- The hooks of a method that were called, in order. -/
def Exchange.callsOf (exchange : Exchange σ) (method : String) : List Hook :=
  exchange.trace.filterMap (Event.hookOf? method)

/-- A hook of the method is a hook. -/
theorem Event.hook?_of_hookOf? {method : String} {event : Event} {hook : Hook}
    (called : event.hookOf? method = some hook) : event.hook? = some hook := by
  cases event with
  | called name other =>
      simp only [hookOf?, Option.ite_none_right_eq_some] at called
      exact called.2
  | _ => cases called

namespace Exchange

/-- An event adds at most the hook that it calls. -/
theorem callsOf_record (exchange : Exchange σ) (method : String) (event : Event) :
    (exchange.record event).callsOf method =
      exchange.callsOf method ++ (event.hookOf? method).toList := by
  rw [callsOf, record, List.filterMap_append]
  cases called : event.hookOf? method <;> simp [callsOf, called]

/-- What calls no hook calls none of the method. -/
theorem callsOf_same {before after : Exchange σ} (grown : before.trace <+: after.trace)
    (calls : after.calls = before.calls) (method : String) :
    after.callsOf method = before.callsOf method := by
  obtain ⟨events, same⟩ := grown
  rw [Exchange.calls, ← same, List.filterMap_append, Exchange.calls, List.append_right_eq_self,
    List.filterMap_eq_nil_iff] at calls
  rw [callsOf, ← same, List.filterMap_append, callsOf, List.append_right_eq_self,
    List.filterMap_eq_nil_iff]
  intro event member
  refine Option.eq_none_iff_forall_ne_some.mpr fun hook called => ?_
  have silent := calls event member
  rw [Event.hook?_of_hookOf? called] at silent
  cases silent

/-- Acts call no hooks. -/
theorem perform_callsOf (exchange : Exchange σ) (act : Act σ) (method : String) :
    (exchange.perform act).callsOf method = exchange.callsOf method :=
  callsOf_same (exchange.perform_trace act) (exchange.perform_calls act) method

end Exchange

/-! ### The book -/

/-- What a method knows of its requests, and the hooks of it that were called. -/
structure Book where
  desk : Desk
  channels : Key → Option Channel
  answers : Key → List Delivery
  calls : List Hook

namespace Book

/-- Answers a request. -/
def answer (book : Book) (key : Key) (encode : Rpc.Id → String) : Book :=
  match book.channels key with
  | none => book
  | some channel =>
    { book with
      channels := Function.update book.channels key (some (channel.answer encode).1)
      answers := Function.update book.answers key (book.answers key ++
        (channel.answer encode).2.map (⟨.answer key, channel.request.client, ·⟩)) }

/-- Answering a request that is not in the book changes nothing. -/
theorem answer_absent {book : Book} {key : Key} (absent : book.channels key = none)
    (encode : Rpc.Id → String) : book.answer key encode = book := by
  rw [answer, absent]

/-- Answers the request of the current run. -/
def answerActive (book : Book) (encode : Key → Request → Rpc.Id → String) : Book :=
  match book.desk.active with
  | none => book
  | some (key, request) => book.answer key (encode key request)

/-- What hearing a signal does to the book. -/
def hear (delegate : Delegate σ) (book : Book) : Signal → Book
  | .started => { book with desk := { book.desk with active := book.desk.next, next := none } }
  | .completed => book.answerActive fun key request => resultText (delegate.result key request)
  | .failed error => book.answerActive fun _ _ id => Rpc.errorText id error
  | _ => book

def hearAll (delegate : Delegate σ) (book : Book) (signals : List Signal) : Book :=
  signals.foldl (hear delegate) book

/-- The turn of the job that begins with a move of its owner. -/
def turn (move : Job.Move) (book : Book) : List Job.Entry × Job :=
  book.desk.job.turn move (book.desk.schedule.headD [])

/-- What such a turn does to the book. -/
def operate (delegate : Delegate σ) (move : Job.Move) (book : Book) : Book :=
  let (entries, job) := book.turn move
  let desk := { book.desk with job, schedule := book.desk.schedule.tail }
  { book with desk }.hearAll delegate (entries.flatMap Job.Entry.signals)

/-- The book with the request that the next start is for. -/
def assign (key : Key) (request : Request) (book : Book) : Book :=
  { book with desk := { book.desk with next := some (key, request) } }

/-- The book after a hook has been called. -/
def call (hook : Hook) (book : Book) : Book :=
  { book with calls := book.calls ++ [hook] }

/-- The book with a new request. -/
def enter (key : Key) (request : Request) (book : Book) : Book :=
  { book with channels := Function.update book.channels key (some (.open request)) }

end Book

/-- The requests of a method by their keys, the pace of its worker, and what is known of the state of
the application while the other methods keep to requests of their own. -/
structure Delegate.Realm (delegate : Delegate σ) where
  mine : Key → Bool
  schedule : List (List Stride)
  valid : σ → Prop
  valid_place : ∀ desk state, valid state → valid (delegate.place desk state)

namespace Delegate.Realm

variable {delegate : Delegate σ} {realm : delegate.Realm}

/-- The book of a method. -/
def book (realm : delegate.Realm) (exchange : Exchange σ) : Book where
  desk := delegate.desk exchange.state
  channels key := if realm.mine key then exchange.channel? key else none
  answers key := if realm.mine key then exchange.answersTo key else []
  calls := exchange.callsOf delegate.method

theorem book_channels {exchange : Exchange σ} {key : Key} (own : realm.mine key = true) :
    (realm.book exchange).channels key = exchange.channel? key :=
  if_pos own

theorem book_answers {exchange : Exchange σ} {key : Key} (own : realm.mine key = true) :
    (realm.book exchange).answers key = exchange.answersTo key :=
  if_pos own

/-- The book has nothing of the requests of other methods. -/
theorem book_foreign {exchange : Exchange σ} {key : Key} (other : realm.mine key = false) :
    (realm.book exchange).channels key = none ∧ (realm.book exchange).answers key = [] := by
  simp [book, other]

/-- The book depends on the desk, on the channels and answers of its own requests, and on the calls
of its method. -/
theorem book_congr {before after : Exchange σ}
    (desk : delegate.desk after.state = delegate.desk before.state)
    (channels : ∀ key, realm.mine key = true → after.channel? key = before.channel? key)
    (answers : ∀ key, realm.mine key = true → after.answersTo key = before.answersTo key)
    (calls : after.callsOf delegate.method = before.callsOf delegate.method) :
    realm.book after = realm.book before := by
  unfold book
  rw [desk, calls]
  congr 1
  · funext key
    split_ifs with own
    · exact channels key own
    · rfl
  · funext key
    split_ifs with own
    · exact answers key own
    · rfl

/-- What sends no answer and changes no channel leaves the book. -/
theorem book_same {before after : Exchange σ}
    (desk : delegate.desk after.state = delegate.desk before.state)
    (channels : after.channels = before.channels)
    (answers : ∀ key, after.answersTo key = before.answersTo key)
    (calls : after.callsOf delegate.method = before.callsOf delegate.method) :
    realm.book after = realm.book before :=
  book_congr desk (fun key _ => by rw [Exchange.channel?, channels, Exchange.channel?])
    (fun key _ => answers key) calls

/-- Answering a request answers it in the book; one of another method is not in the book. -/
theorem book_answer (realm : delegate.Realm) (exchange : Exchange σ) (key : Key)
    (encode : Rpc.Id → String) :
    realm.book (exchange.answer key encode) = (realm.book exchange).answer key encode := by
  have calls := Exchange.callsOf_same (exchange.answer_trace key encode)
    (exchange.answer_calls_others key encode).1 delegate.method
  have state := exchange.answer_state key encode
  cases found : exchange.channel? key with
  | none =>
      have idle : exchange.answer key encode = exchange := by
        rw [Exchange.answer, found]
      rw [idle, Book.answer_absent]
      simp [book, found]
  | some channel =>
      obtain ⟨channels, deliveries⟩ := exchange.answer_parts encode found
      have turn := exchange.answer_turn encode found
      have enrolled := (List.getElem?_eq_some_iff.mp found).1
      have other {asked : Key} (apart : asked ≠ key) :
          (exchange.answer key encode).answersTo asked = exchange.answersTo asked := by
        rw [Exchange.answersTo, deliveries, List.filter_append, List.filter_map]
        simp [Exchange.answersTo, Function.comp_def, apart.symm]
      have own : (exchange.answer key encode).answersTo key = exchange.answersTo key ++
          (channel.answer encode).2.map (⟨.answer key, channel.request.client, ·⟩) := by
        rw [Exchange.answersTo, deliveries, List.filter_append, List.filter_map]
        simp [Exchange.answersTo, Function.comp_def]
      cases yours : realm.mine key with
      | false =>
          rw [Book.answer_absent (by simp [book, yours])]
          refine book_congr (by rw [state]) (fun asked member => ?_) (fun asked member => ?_)
            (by rw [calls])
          · exact turn.other fun same => by simp [same, yours] at member
          · exact other fun same => by simp [same, yours] at member
      | true =>
          have listed : (realm.book exchange).channels key = some channel := by
            simp [book, yours, found]
          rw [Book.answer, listed]
          unfold book
          rw [state, calls]
          congr 1
          · funext asked
            by_cases same : asked = key
            · rw [same, Function.update_self, if_pos yours, turn.own enrolled]
            · rw [Function.update_of_ne same, turn.other same]
          · funext asked
            by_cases same : asked = key
            · rw [same, Function.update_self, if_pos yours, own]
              simp [yours]
            · rw [Function.update_of_ne same, other same]

/-! ### What acts and scripts do to the book -/

/-- An act turns the book by a step, whatever has happened before. -/
def Acts (realm : delegate.Realm) (step : Book → Book) (act : Act σ) : Prop :=
  ∀ exchange, realm.valid exchange.state →
    realm.valid (exchange.perform act).state ∧
      realm.book (exchange.perform act) = step (realm.book exchange)

/-- An act that leaves the book as it is. -/
abbrev SparedBy (realm : delegate.Realm) (act : Act σ) : Prop :=
  realm.Acts id act

/-- The other threads leave the book as it is. -/
structure Calm (realm : delegate.Realm) (exchange : Exchange σ) : Prop where
  valid : realm.valid exchange.state
  spared : ∀ acts ∈ exchange.others, ∀ act ∈ acts, realm.SparedBy act

/-- What happened turned the book by a step. -/
structure Yields (realm : delegate.Realm) (step : Book → Book) (before after : Exchange σ) :
    Prop where
  calm : realm.Calm after
  book : realm.book after = step (realm.book before)

/-- What happened left the book as it was. -/
abbrev Leaves (realm : delegate.Realm) (before after : Exchange σ) : Prop :=
  realm.Yields id before after

/-- A script turns the book by a step when it does so wherever it runs. -/
def Turns (realm : delegate.Realm) (step : Book → Book) (script : Script σ ρ) : Prop :=
  ∀ exchange, realm.Calm exchange → realm.Yields step exchange (script.run exchange).2

/-- A script that leaves the book as it is. -/
abbrev Spares (realm : delegate.Realm) (script : Script σ ρ) : Prop :=
  realm.Turns id script

section

variable {step next : Book → Book} {act : Act σ} {script : Script σ ρ}
  {before middle after exchange : Exchange σ}

/-- Two stretches turn the book one after the other. -/
theorem Yields.trans (first : realm.Yields step before middle)
    (second : realm.Yields next middle after) :
    realm.Yields (fun book => next (step book)) before after :=
  ⟨second.calm, second.book.trans (congrArg next first.book)⟩

theorem Calm.refl (calm : realm.Calm exchange) : realm.Leaves exchange exchange :=
  ⟨calm, rfl⟩

/-- What the book does not depend on may change. -/
theorem Calm.still (calm : realm.Calm before) (state : after.state = before.state)
    (others : after.others = before.others) (channels : after.channels = before.channels)
    (answers : ∀ key, after.answersTo key = before.answersTo key)
    (calls : after.callsOf delegate.method = before.callsOf delegate.method) :
    realm.Leaves before after :=
  ⟨⟨state ▸ calm.valid, others ▸ calm.spared⟩, book_same (by rw [state]) channels answers calls⟩

/-- Log notices leave the book. -/
theorem Calm.log (calm : realm.Calm exchange) (notice : Log.Notice) :
    realm.Leaves exchange (exchange.log notice) :=
  calm.still rfl rfl rfl (fun key => by simp [Exchange.answersTo])
    (Exchange.callsOf_same (List.prefix_append ..) (exchange.log_calls notice) _)

/-- Where the other threads are calm, an act turns the book by its step. -/
theorem Calm.perform (calm : realm.Calm exchange) (acts : realm.Acts step act) :
    realm.Yields step exchange (exchange.perform act) := by
  obtain ⟨valid, book⟩ := acts exchange calm.valid
  refine ⟨⟨valid, fun turn taken => ?_⟩, book⟩
  rw [exchange.perform_others] at taken
  exact calm.spared turn taken

/-- A turn of the calm threads leaves the book. -/
theorem Calm.pause (calm : realm.Calm exchange) : realm.Leaves exchange exchange.pause := by
  unfold Exchange.pause
  split
  · exact calm.refl
  · next acts others taken =>
      have allowed := calm.spared acts (by simp [taken])
      have started : realm.Leaves exchange { exchange with others } :=
        ⟨⟨calm.valid, fun later member => calm.spared later (by simp [taken, member])⟩, rfl⟩
      generalize ({ exchange with others } : Exchange σ) = current at started
      clear taken
      induction acts generalizing current with
      | nil => exact started
      | cons act acts ih =>
          exact ih (fun later member => allowed later (by simp [member])) _
            (started.trans (started.calm.perform (allowed act (by simp))))

theorem turns_done (result : ρ) : realm.Spares (.done result) :=
  fun _ calm => calm.refl

/-- A script that begins with an act turns the book by the step of the act and then by the rest. -/
theorem turns_act {rest : Script σ ρ} (acts : realm.Acts step act)
    (later : realm.Turns next rest) :
    realm.Turns (fun book => next (step book)) (.act act rest) := by
  intro exchange calm
  have paused := calm.pause
  have acted := paused.calm.perform acts
  exact (paused.trans acted).trans (later _ acted.calm)

/-- A script that looks at the desk turns the book by a step that does so. -/
theorem turns_read (step : Desk → Book → Book) {rest : σ → Script σ ρ}
    (each : ∀ state, realm.valid state → realm.Turns (step (delegate.desk state)) (rest state)) :
    realm.Turns (fun book => step book.desk book) (.read rest) := by
  intro exchange calm
  have paused := calm.pause
  have read := each exchange.pause.state paused.calm.valid _ paused.calm
  refine ⟨read.calm, read.book.trans ?_⟩
  have desk : delegate.desk exchange.pause.state = (realm.book exchange).desk :=
    congrArg Book.desk paused.book
  rw [paused.book, desk, id]

/-- A sequence turns the book by both its parts, whatever the first one returns. -/
theorem Turns.bind {rest : ρ → Script σ τ} (first : realm.Turns step script)
    (later : ∀ result, realm.Turns next (rest result)) :
    realm.Turns (fun book => next (step book)) (script.bind rest) := by
  intro exchange calm
  have ran := first exchange calm
  rw [Script.run_bind]
  exact ran.trans (later _ _ ran.calm)

end

/-! ### What the method does to its book -/

/-- Writing the desk of the method into the state changes the desk in the book. -/
theorem acts_write (realm : delegate.Realm) (desk : Desk) {state : σ} (valid : realm.valid state) :
    realm.Acts (fun book => { book with desk }) (.write (delegate.place desk state)) := by
  intro exchange _
  refine ⟨realm.valid_place desk state valid, ?_⟩
  change (⟨delegate.desk (delegate.place desk state), _, _, _⟩ : Book) = _
  rw [delegate.desk_place]
  rfl

/-- A reply answers in the book. -/
theorem acts_reply (realm : delegate.Realm) (key : Key) (result : Except String Json.Value) :
    realm.Acts (fun book => book.answer key (resultText result)) (.reply key result) := by
  intro exchange valid
  rw [Exchange.perform, exchange.reply_eq, exchange.answer_state]
  exact ⟨valid, realm.book_answer exchange key _⟩

/-- An error answers in the book. -/
theorem acts_error (realm : delegate.Realm) (key : Key) (error : Rpc.Error) :
    realm.Acts (fun book => book.answer key fun id => Rpc.errorText id error)
      (.error key error) := by
  intro exchange valid
  rw [Exchange.perform, Exchange.error, exchange.answer_state]
  exact ⟨valid, realm.book_answer exchange key _⟩

/-- The book has no progress notices. -/
theorem sparedBy_progress (realm : delegate.Realm) (key : Key) (operation : String)
    (amount : Float) : realm.SparedBy (.progress key operation amount) := by
  intro exchange valid
  have state := exchange.progress_state key operation amount
  refine ⟨state.symm ▸ valid, book_same (congrArg delegate.desk state) ?_ (fun asked => ?_)
    (exchange.perform_callsOf _ _)⟩
  · rcases exchange.progress_cases key operation amount with
      same | ⟨channel, text, _, _, _, _, same⟩
    · rw [Exchange.perform, same]
    · rw [Exchange.perform, same, Exchange.send_channels]
  · rcases exchange.progress_cases key operation amount with
      same | ⟨channel, text, _, _, _, _, same⟩
    · rw [Exchange.perform, same]
    · rw [Exchange.perform, same]
      simp [Exchange.answersTo]

theorem sparedBy_note (realm : delegate.Realm) (value : Json.Value) :
    realm.SparedBy (.note value) := by
  intro exchange valid
  refine ⟨valid, book_same rfl rfl (fun key => ?_) (exchange.perform_callsOf _ _)⟩
  simp [Exchange.perform, Exchange.record, Exchange.answersTo, Exchange.deliveries,
    Event.delivery?]

theorem sparedBy_log (realm : delegate.Realm) (notice : Log.Notice) :
    realm.SparedBy (.log notice) := by
  intro exchange valid
  refine ⟨valid, book_same rfl rfl (fun key => ?_) (exchange.perform_callsOf _ _)⟩
  simp [Exchange.perform, Exchange.answersTo]

theorem sparedBy_switch (realm : delegate.Realm) (thread : Thread) :
    realm.SparedBy (.switch thread) :=
  fun _ valid => ⟨valid, rfl⟩

theorem SparedBy.spares {act : Act σ} (spared : realm.SparedBy act) :
    realm.Spares (Script.perform act) :=
  turns_act spared (turns_done ())

/-- A script that changes the desk does the same to the book. -/
theorem turns_changeDesk (realm : delegate.Realm) (change : Desk → Desk) :
    realm.Turns (fun book => { book with desk := change book.desk })
      (delegate.changeDesk change) :=
  turns_read (fun desk book => { book with desk := change desk }) fun _ valid =>
    turns_act (realm.acts_write _ valid) (turns_done ())

/-- A script for the active request turns the book by the answer to that request. -/
theorem turns_onActive {act : Key → Request → Act σ} {encode : Key → Request → Rpc.Id → String}
    (acts : ∀ key request,
      realm.Acts (fun book => book.answer key (encode key request)) (act key request)) :
    realm.Turns (fun book => book.answerActive encode) (delegate.onActive act) := by
  refine turns_read (fun desk book => match desk.active with
    | none => book
    | some (key, request) => book.answer key (encode key request)) fun state _ => ?_
  cases (delegate.desk state).active with
  | none => exact turns_done ()
  | some run => exact turns_act (acts run.1 run.2) (turns_done ())

/-- A script for the active request that sends no answer leaves the book. -/
theorem spares_onActive {act : Key → Request → Act σ}
    (spared : ∀ key request, realm.SparedBy (act key request)) :
    realm.Spares (delegate.onActive act) := by
  refine turns_read (fun _ => id) fun state _ => ?_
  cases (delegate.desk state).active with
  | none => exact turns_done ()
  | some run => exact (spared run.1 run.2).spares

/-- Reacting to a signal is hearing it. -/
theorem turns_react (realm : delegate.Realm) (signal : Signal) :
    realm.Turns (fun book => book.hear delegate signal) (delegate.react signal) := by
  cases signal with
  | started =>
      exact realm.turns_changeDesk fun desk => { desk with active := desk.next, next := none }
  | progressed operation amount =>
      have middle : realm.Spares
          (delegate.onActive fun key _ => .progress key operation amount) :=
        spares_onActive fun key _ => realm.sparedBy_progress key operation amount
      exact (realm.sparedBy_switch .worker).spares.bind fun _ => middle.bind fun _ =>
        (realm.sparedBy_switch .service).spares.bind fun _ => turns_done ()
  | cancelRequested => exact turns_done ()
  | completed => exact turns_onActive fun key request => realm.acts_reply key _
  | failed error => exact turns_onActive fun key _ => realm.acts_error key error
  | told value => exact (realm.sparedBy_note value).spares
  | reported notice => exact (realm.sparedBy_log notice).spares

/-- Reacting to signals in order is hearing them in order. -/
theorem turns_reactAll (realm : delegate.Realm) (signals : List Signal) :
    realm.Turns (fun book => book.hearAll delegate signals)
      (Script.sequence (signals.map delegate.react)) := by
  induction signals with
  | nil => exact turns_done ()
  | cons signal signals ih => exact (realm.turns_react signal).bind fun _ => ih

/-- An operation of the job whose signals are those of a move turns the book by that move. -/
theorem turns_operate (realm : delegate.Realm) {operation : Job → List Signal × Job}
    {move : Job.Move}
    (acts : ∀ job : Job, operation job = ((job.act move).1.signals, (job.act move).2)) :
    realm.Turns (Book.operate delegate move) (delegate.operate operation) := by
  refine turns_read (fun desk book => Book.operate delegate move { book with desk })
    fun state valid => ?_
  dsimp only
  rw [acts, Job.strides_eq]
  -- the desk is written once, and then every signal is heard
  let desk := delegate.desk state
  let turn := desk.job.turn move (desk.schedule.headD [])
  let written : Desk := { desk with job := turn.2, schedule := desk.schedule.tail }
  have heard : realm.Turns (fun book => { book with desk := written }.hearAll delegate
      (turn.1.flatMap Job.Entry.signals)) (.act (.write (delegate.place written state))
        (Script.sequence ((turn.1.flatMap Job.Entry.signals).map delegate.react))) :=
    turns_act (realm.acts_write written valid) (realm.turns_reactAll _)
  exact heard

/-- The handler of a request assigns it to the next run and starts the body of that run. -/
theorem turns_handle (realm : delegate.Realm) (key : Key) (request : Request) :
    realm.Turns (fun book => (book.assign key request).operate delegate
      (.start (delegate.body key request))) (delegate.handle key request) := by
  have start : realm.Turns (Book.operate delegate (.start (delegate.body key request))) _ :=
    realm.turns_operate fun job => rfl
  have done : realm.Spares (Script.done Outcome.success) := turns_done _
  exact (realm.turns_changeDesk fun desk => { desk with next := some (key, request) }).bind
    fun _ => start.bind fun _ => done

end Delegate.Realm

/-- The handler of a delegating method never fails. -/
theorem Delegate.handle_success (delegate : Delegate σ) (key : Key) (request : Request)
    (exchange : Exchange σ) : ((delegate.handle key request).run exchange).1 = .success := by
  rw [handle, Script.run_bind, Script.run_bind]
  rfl

end RpcDispatch
