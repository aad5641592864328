import RpcDispatch.Proofs.Exchange.Effect
import Mathlib.Logic.Relation

/-
This file says what a stretch of a run can do to the exchange.  A stretch is made of single moves;
what one move keeps, every script, hook and turn of the other threads keeps.
-/

namespace RpcDispatch

/-- An act closes no other requests than the given ones. -/
def Act.ClosesOnly {σ : Type} (closes : Key → Prop) (act : Act σ) : Prop :=
  ∀ key, act = .close key → closes key

/-- A script closes no other requests than the given ones, whatever it reads. -/
def Script.ClosesOnly {σ ρ : Type} (closes : Key → Prop) : Script σ ρ → Prop
  | .done _ => True
  | .act step next => step.ClosesOnly closes ∧ next.ClosesOnly closes
  | .read next => ∀ state, (next state).ClosesOnly closes
  | .look _ next => ∀ channel, (next channel).ClosesOnly closes

/-- The hooks of an entrypoint close no other requests than the given ones. -/
structure Entrypoint.ClosesOnly {σ : Type} (closes : Key → Prop) (entrypoint : Entrypoint σ) :
    Prop where
  onRequest : ∀ key request, (entrypoint.onRequest key request).ClosesOnly closes
  onCancel : entrypoint.onCancel.ClosesOnly closes
  onDisconnect : entrypoint.onDisconnect.ClosesOnly closes
  onUpdate : entrypoint.onUpdate.ClosesOnly closes

/-- A script may be given more requests to close than it needs. -/
theorem Script.ClosesOnly.mono {σ ρ : Type} {closes wider : Key → Prop}
    (widens : ∀ key, closes key → wider key) {script : Script σ ρ}
    (allowed : script.ClosesOnly closes) : script.ClosesOnly wider := by
  induction script with
  | done result => trivial
  | act step next ih => exact ⟨fun key same => widens key (allowed.1 key same), ih allowed.2⟩
  | read next ih => exact fun state => ih state (allowed state)
  | look key next ih => exact fun channel => ih channel (allowed channel)

/-- The hooks of an entrypoint may be given more requests to close than they need. -/
theorem Entrypoint.ClosesOnly.mono {σ : Type} {closes wider : Key → Prop}
    (widens : ∀ key, closes key → wider key) {entrypoint : Entrypoint σ}
    (allowed : entrypoint.ClosesOnly closes) : entrypoint.ClosesOnly wider :=
  ⟨fun key request => (allowed.onRequest key request).mono widens, allowed.onCancel.mono widens,
    allowed.onDisconnect.mono widens, allowed.onUpdate.mono widens⟩

/-- No limit to the requests that may be closed. -/
abbrev anyKey : Key → Prop := fun _ => True

/-- No request. -/
abbrev noKey : Key → Prop := fun _ => False

/-- Every script keeps to no limit. -/
theorem Script.closesOnly_anyKey {σ ρ : Type} (script : Script σ ρ) :
    script.ClosesOnly anyKey := by
  induction script with
  | done result => trivial
  | act step next ih => exact ⟨fun _ _ => trivial, ih⟩
  | read next ih => exact ih
  | look key next ih => exact ih

/-- Every entrypoint keeps to no limit. -/
theorem Entrypoint.closesOnly_anyKey {σ : Type} (entrypoint : Entrypoint σ) :
    entrypoint.ClosesOnly anyKey :=
  ⟨fun _ _ => Script.closesOnly_anyKey _, Script.closesOnly_anyKey _,
    Script.closesOnly_anyKey _, Script.closesOnly_anyKey _⟩

/-- No limit to the hooks that may be called. -/
abbrev anyHook : Hook → Prop := fun _ => True

/-- No hook may be called. -/
abbrev noHook : Hook → Prop := fun _ => False

namespace Exchange

variable {σ : Type} {closes : Key → Prop} {hooks wider : Hook → Prop}
  {before middle after : Exchange σ}

/-- The other threads close no other requests than the given ones. -/
def OthersCloseOnly (closes : Key → Prop) (exchange : Exchange σ) : Prop :=
  ∀ acts ∈ exchange.others, ∀ act ∈ acts, act.ClosesOnly closes

theorem OthersCloseOnly.mono {exchange : Exchange σ} {closes wider : Key → Prop}
    (widens : ∀ key, closes key → wider key) (within : exchange.OthersCloseOnly closes) :
    exchange.OthersCloseOnly wider :=
  fun acts taken act member key same => widens key (within acts taken act member key same)

theorem othersCloseOnly_anyKey (exchange : Exchange σ) : exchange.OthersCloseOnly anyKey :=
  fun _ _ _ _ _ _ => trivial

/-- One move of a stretch that closes the given requests and calls the given hooks.  No move
opens a channel. -/
inductive Move (closes : Key → Prop) (hooks : Hook → Prop) : Exchange σ → Exchange σ → Prop where
  | perform (exchange : Exchange σ) (act : Act σ) (allowed : act.ClosesOnly closes) :
      Move closes hooks exchange (exchange.perform act)
  | log (exchange : Exchange σ) (notice : Log.Notice) :
      Move closes hooks exchange (exchange.log notice)
  | call (exchange : Exchange σ) (method : String) (hook : Hook) (allowed : hooks hook) :
      Move closes hooks exchange (exchange.record (.called method hook))
  | chunk (exchange : Exchange σ) (client : ClientId) (bytes : Bytes) :
      Move closes hooks exchange (exchange.record (.chunk client bytes))
  | attempt (exchange : Exchange σ) (client : ClientId) (text : String) :
      Move closes hooks exchange (exchange.attempt client text).2
  | turn (exchange : Exchange σ) (acts : List (Act σ)) (others : List (List (Act σ)))
      (next : exchange.others = acts :: others) :
      Move closes hooks exchange { exchange with others }

/-- A stretch of moves, provided that the other threads close only what it may close. -/
def Leads (closes : Key → Prop) (hooks : Hook → Prop) (before after : Exchange σ) : Prop :=
  before.OthersCloseOnly closes → Relation.ReflTransGen (Move closes hooks) before after

/-! ### What one move keeps -/

/-- What a stretch may do to one channel. -/
structure ChannelStep (key : Key) (closes : Key → Prop) (before after : Channel) : Prop where
  request : after.request = before.request
  answered : before.answered = true → after.answered = true
  closed : before.closed = true → after.closed = true
  opened : ¬ closes key → before.closed = false → after.closed = false

theorem ChannelStep.refl (key : Key) (channel : Channel) :
    ChannelStep key closes channel channel :=
  ⟨rfl, id, id, fun _ => id⟩

/-- A move changes every channel by a step of its own. -/
theorem Move.channel (move : Move closes hooks before after) (key : Key) :
    (before.channel? key = none ∧ after.channel? key = none) ∨
      ∃ old new, before.channel? key = some old ∧ after.channel? key = some new ∧
        ChannelStep key closes old new := by
  -- most moves leave the channels alone, so only answering and closing are looked at
  have unchanged (same : after.channels = before.channels) :
      (before.channel? key = none ∧ after.channel? key = none) ∨
        ∃ old new, before.channel? key = some old ∧ after.channel? key = some new ∧
          ChannelStep key closes old new := by
    cases found : before.channel? key with
    | none => exact .inl ⟨rfl, by simpa [channel?, same] using found⟩
    | some channel =>
        exact .inr ⟨channel, channel, rfl, by simpa [channel?, same] using found, .refl key channel⟩
  have modified (target : Key) (change : Channel → Channel)
      (same : after.channels = before.channels.modify target change)
      (step : ∀ channel, target = key → ChannelStep key closes channel (change channel)) :
      (before.channel? key = none ∧ after.channel? key = none) ∨
        ∃ old new, before.channel? key = some old ∧ after.channel? key = some new ∧
          ChannelStep key closes old new := by
    cases found : before.channel? key with
    | none =>
        left
        simp only [channel?] at found ⊢
        simp [same, List.getElem?_modify, found]
    | some channel =>
        right
        simp only [channel?] at found ⊢
        by_cases hit : target = key
        · exact ⟨channel, change channel, rfl, by simp [same, found, hit],
            step channel hit⟩
        · exact ⟨channel, channel, rfl, by simp [same, found, hit],
            .refl key channel⟩
  cases move with
  | perform act allowed =>
      cases before.perform_effect act with
      | silent channels => exact unchanged channels
      | answer target channel text found expected opened first carries channels =>
          exact modified target _ channels fun channel _ => ⟨rfl, fun _ => rfl, id, fun _ => id⟩
      | progress target channel text found expected opened first channels =>
          exact unchanged channels
      | close target same channels =>
          exact modified target _ channels fun channel hit =>
            ⟨rfl, id, fun _ => rfl, fun barred => absurd (hit ▸ allowed target same) barred⟩
  | log notice => exact unchanged rfl
  | call method hook allowed => exact unchanged rfl
  | chunk client bytes => exact unchanged rfl
  | attempt client text => exact unchanged rfl
  | turn acts others next => exact unchanged rfl

/-- A move changes no request and opens no channel. -/
theorem Move.requests (move : Move closes hooks before after) :
    after.requests = before.requests := by
  apply List.ext_getElem?
  intro key
  simp only [Exchange.requests, List.getElem?_map]
  rcases move.channel key with ⟨old, new⟩ | ⟨old, new, found, kept, step⟩
  · simp only [channel?] at old new
    rw [old, new]
  · simp only [channel?] at found kept
    rw [found, kept, Option.map_some, Option.map_some, step.request]

/-- An answered request stays answered. -/
theorem Move.answered (move : Move closes hooks before after) {key : Key}
    (answered : before.isAnswered key = true) : after.isAnswered key = true := by
  rcases move.channel key with ⟨old, _⟩ | ⟨old, new, found, kept, step⟩
  · simp [isAnswered, old] at answered
  · simp only [isAnswered, found, kept, Option.any_some] at answered ⊢
    exact step.answered answered

/-- A request stays open where closing it is not allowed. -/
theorem Move.opened (move : Move closes hooks before after) {key : Key} (barred : ¬ closes key)
    (opened : before.isClosed key = false) : after.isClosed key = false := by
  rcases move.channel key with ⟨_, new⟩ | ⟨old, new, found, kept, step⟩
  · simp [isClosed, new]
  · simp only [isClosed, found, kept, Option.any_some] at opened ⊢
    exact step.opened barred opened

/-- A move calls only the hooks that are allowed. -/
theorem Move.calls (move : Move closes hooks before after) :
    after.calls = before.calls ∨
      ∃ hook, hooks hook ∧ after.calls = before.calls ++ [hook] := by
  cases move with
  | perform act allowed => exact .inl (before.perform_calls act)
  | log notice => exact .inl (before.log_calls notice)
  | call method hook allowed =>
      exact .inr ⟨hook, allowed, before.record_called_calls method hook⟩
  | chunk client bytes => exact .inl (before.record_chunk_calls client bytes)
  | attempt client text => exact .inl (before.attempt_calls client text .direct)
  | turn acts others next => exact .inl rfl

/-- The other threads only lose turns. -/
theorem Move.others (move : Move closes hooks before after) : after.others <:+ before.others := by
  cases move with
  | perform act allowed => exact ⟨[], before.perform_others act⟩
  | log notice => exact List.suffix_rfl
  | call method hook allowed => exact List.suffix_rfl
  | chunk client bytes => exact List.suffix_rfl
  | attempt client text => exact List.suffix_rfl
  | turn acts others next => exact ⟨[acts], by simp [next]⟩

/-- A move stays one when more hooks may be called. -/
theorem Move.widen (widens : ∀ hook, hooks hook → wider hook)
    (move : Move closes hooks before after) : Move closes wider before after := by
  cases move with
  | perform act allowed => exact .perform _ act allowed
  | log notice => exact .log _ notice
  | call method hook allowed => exact .call _ method hook (widens hook allowed)
  | chunk client bytes => exact .chunk _ client bytes
  | attempt client text => exact .attempt _ client text
  | turn acts others next => exact .turn _ acts others next

/-- The other threads keep to their limit over a move. -/
theorem Move.othersCloseOnly (move : Move closes hooks before after)
    (within : before.OthersCloseOnly closes) : after.OthersCloseOnly closes :=
  fun acts taken => within acts (move.others.subset taken)

/-! ### Stretches -/

theorem Leads.refl (exchange : Exchange σ) : Leads closes hooks exchange exchange :=
  fun _ => .refl

theorem Move.leads (move : Move closes hooks before after) : Leads closes hooks before after :=
  fun _ => .single move

/-- Where a stretch ends, the other threads still close only what they may. -/
theorem Leads.othersCloseOnly (leads : Leads closes hooks before after)
    (within : before.OthersCloseOnly closes) : after.OthersCloseOnly closes := by
  have moves := leads within
  clear leads
  induction moves with
  | refl => exact within
  | tail _ move ih => exact move.othersCloseOnly ih

/-- Two stretches make a stretch. -/
theorem Leads.trans (first : Leads closes hooks before middle)
    (second : Leads closes hooks middle after) : Leads closes hooks before after :=
  fun within => (first within).trans (second (first.othersCloseOnly within))

/-- A stretch may be given more hooks to call than it calls. -/
theorem Leads.widen (widens : ∀ hook, hooks hook → wider hook)
    (leads : Leads closes hooks before after) : Leads closes wider before after :=
  fun within => (leads within).lift id fun _ _ move => move.widen widens

/-- Every stretch keeps to no limit of hooks. -/
theorem Leads.any (leads : Leads closes hooks before after) : Leads closes anyHook before after :=
  leads.widen fun _ _ => trivial

/-- A stretch changes no request and opens no channel. -/
theorem Leads.requests (leads : Leads closes hooks before after)
    (within : before.OthersCloseOnly closes) : after.requests = before.requests := by
  have moves := leads within
  clear leads
  induction moves with
  | refl => rfl
  | tail _ move ih => exact move.requests.trans ih

/-- An answered request stays answered. -/
theorem Leads.answered (leads : Leads closes hooks before after)
    (within : before.OthersCloseOnly closes) {key : Key}
    (answered : before.isAnswered key = true) : after.isAnswered key = true := by
  have moves := leads within
  clear leads
  induction moves with
  | refl => exact answered
  | tail _ move ih => exact move.answered ih

/-- A request that may not be closed stays open. -/
theorem Leads.opened (leads : Leads closes hooks before after)
    (within : before.OthersCloseOnly closes) {key : Key} (barred : ¬ closes key)
    (opened : before.isClosed key = false) : after.isClosed key = false := by
  have moves := leads within
  clear leads
  induction moves with
  | refl => exact opened
  | tail _ move ih => exact move.opened barred ih

/-- A stretch leaves the number of calls of every hook that it may not call. -/
theorem Leads.count_calls (leads : Leads closes hooks before after)
    (within : before.OthersCloseOnly closes) {hook : Hook} (barred : ¬ hooks hook) :
    after.calls.count hook = before.calls.count hook := by
  have moves := leads within
  clear leads
  induction moves with
  | refl => rfl
  | tail _ move ih =>
      rcases move.calls with same | ⟨called, allowed, same⟩
      · rw [same, ih]
      · have different : called ≠ hook := fun equal => barred (equal ▸ allowed)
        rw [same, List.count_append, ih]
        simp [different]

/-- A hook that may not be called is called after the stretch only if it was before. -/
theorem Leads.mem_calls_iff (leads : Leads closes hooks before after)
    (within : before.OthersCloseOnly closes) {hook : Hook} (barred : ¬ hooks hook) :
    hook ∈ after.calls ↔ hook ∈ before.calls := by
  rw [← List.count_pos_iff, ← List.count_pos_iff, leads.count_calls within barred]

/-- What was called stays called. -/
theorem Leads.mem_calls (leads : Leads closes hooks before after)
    (within : before.OthersCloseOnly closes) {hook : Hook} (called : hook ∈ before.calls) :
    hook ∈ after.calls := by
  have moves := leads within
  clear leads
  induction moves with
  | refl => exact called
  | tail _ move ih =>
      rcases move.calls with same | ⟨last, _, same⟩
      · rwa [same]
      · rw [same]
        exact List.mem_append_left _ ih

/-- A stretch that may call no hook calls none. -/
theorem Leads.calls_quiet (leads : Leads closes noHook before after)
    (within : before.OthersCloseOnly closes) : after.calls = before.calls := by
  have moves := leads within
  clear leads
  induction moves with
  | refl => rfl
  | tail _ move ih =>
      rcases move.calls with same | ⟨_, never, _⟩
      · exact same.trans ih
      · exact never.elim

/-- A move may be added at the end of a stretch. -/
theorem Leads.move (leads : Leads closes hooks before middle)
    (move : Move closes hooks middle after) : Leads closes hooks before after :=
  leads.trans move.leads

/-- An act may be added at the end of a stretch. -/
theorem Leads.perform (leads : Leads closes hooks before middle) (act : Act σ)
    (allowed : act.ClosesOnly closes) : Leads closes hooks before (middle.perform act) :=
  leads.move (.perform middle act allowed)

theorem Leads.log (leads : Leads closes hooks before middle) (notice : Log.Notice) :
    Leads closes hooks before (middle.log notice) :=
  leads.move (.log middle notice)

theorem Leads.call (leads : Leads closes hooks before middle) (method : String) (hook : Hook)
    (allowed : hooks hook) :
    Leads closes hooks before (middle.record (.called method hook)) :=
  leads.move (.call middle method hook allowed)

/-! ### Turns, scripts and hooks -/

/-- The turn of the other threads is a stretch. -/
theorem pause_leads (exchange : Exchange σ) : Leads closes hooks exchange exchange.pause := by
  unfold pause
  split
  · exact .refl exchange
  · next acts others taken =>
      intro within
      have allowed := within acts (by simp [taken])
      have started : Relation.ReflTransGen (Move closes hooks) exchange { exchange with others } :=
        .single (.turn exchange acts others taken)
      -- the acts of the turn follow one another from where it began
      generalize ({ exchange with others } : Exchange σ) = current at started
      clear taken
      induction acts generalizing current with
      | nil => exact started
      | cons act acts ih =>
          have first : Move closes hooks current (current.perform act) :=
            .perform current act (allowed act (by simp))
          exact ih (fun later member => allowed later (by simp [member])) _ (started.tail first)

/-- A turn of the other threads keeps every answer. -/
theorem pause_answered (exchange : Exchange σ) {key : Key}
    (answered : exchange.isAnswered key = true) : exchange.pause.isAnswered key = true := by
  have turn : Leads anyKey anyHook exchange exchange.pause := exchange.pause_leads
  exact turn.answered exchange.othersCloseOnly_anyKey answered

/-- A stretch may end with a turn of the other threads. -/
theorem Leads.pause (leads : Leads closes hooks before middle) :
    Leads closes hooks before middle.pause :=
  leads.trans (pause_leads middle)

end Exchange

open Exchange (Leads)

/-- A script is a stretch that calls no hook. -/
theorem Script.run_leads {σ ρ : Type} {closes : Key → Prop} {hooks : Hook → Prop}
    (script : Script σ ρ) (exchange : Exchange σ) (allowed : script.ClosesOnly closes) :
    Leads closes hooks exchange (script.run exchange).2 := by
  induction script generalizing exchange with
  | done result => exact .refl exchange
  | act step next ih =>
      exact (((Leads.refl exchange).pause).perform step allowed.1).trans (ih _ allowed.2)
  | read next ih => exact ((Leads.refl exchange).pause).trans (ih _ _ (allowed _))
  | look key next ih => exact ((Leads.refl exchange).pause).trans (ih _ _ (allowed _))

namespace Exchange

variable {σ : Type} {closes : Key → Prop} {hooks : Hook → Prop}

/-- A hook is recorded as called, and then its script runs. -/
theorem call_leads {ρ : Type} (exchange : Exchange σ) (method : String) (hook : Hook)
    (called : hooks hook) (script : Script σ ρ) (allowed : script.ClosesOnly closes) :
    Leads closes hooks exchange (script.run (exchange.record (.called method hook))).2 :=
  ((Leads.refl exchange).call method hook called).trans (script.run_leads _ allowed)

/-- The call of a chunk consumer closes what its script may close and calls no hook. -/
theorem callConsumer_leads (exchange : Exchange σ) (consumer : Consumer σ) (client : ClientId)
    (bytes : Bytes) (allowed : (consumer client bytes).ClosesOnly closes) :
    Leads closes hooks exchange (exchange.callConsumer consumer client bytes).2 :=
  ((Leads.refl exchange).move (.chunk exchange client bytes)).trans
    ((consumer client bytes).run_leads _ allowed)

end Exchange

end RpcDispatch
