import RpcDispatch.Proofs.Delegate.Dispatch

/-
This file shows that two delegating methods with desks of their own do not disturb one another.
-/

namespace RpcDispatch

namespace Delegate

variable {σ ρ : Type} {first second : Delegate σ} {mine : Key → Bool}
  {schedule : List (List Stride)}

/-- The state of the application is valid while the desk of the second method names no request of
the first one. -/
def beside (first second : Delegate σ) (mine : Key → Bool) (schedule : List (List Stride))
    (apart : ∀ desk state, second.desk (first.place desk state) = second.desk state) :
    first.Realm where
  mine := mine
  schedule := schedule
  valid state := ∀ run, run ∈ (second.desk state).active ∨ run ∈ (second.desk state).next →
    mine run.1 = false
  valid_place desk state valid := by
    rw [apart]
    exact valid

/-- The second method changes its desk, which is none of the first one. -/
theorem Realm.spares_modify {realm : first.Realm} {change : σ → σ} {rest : σ → Script σ ρ}
    (keeps : ∀ state, realm.valid state →
      realm.valid (change state) ∧ first.desk (change state) = first.desk state)
    (later : ∀ state, realm.valid state → realm.Spares (rest state)) :
    realm.Spares (.read fun state => .act (.write (change state)) (rest state)) := by
  intro exchange calm
  have paused := calm.pause
  have again := paused.calm.pause
  obtain ⟨valid, desk⟩ := keeps exchange.pause.state paused.calm.valid
  -- the desk of the first method is the same after both turns of the other threads
  have same : first.desk exchange.pause.pause.state = first.desk exchange.pause.state :=
    congrArg Book.desk again.book
  have written : realm.Leaves exchange.pause.pause
      (exchange.pause.pause.perform (.write (change exchange.pause.state))) := by
    refine ⟨⟨valid, again.calm.spared⟩, Realm.book_same ?_ rfl (fun _ => rfl) rfl⟩
    exact desk.trans same.symm
  have acted := (paused.trans again).trans written
  exact acted.trans (later _ paused.calm.valid _ acted.calm)

variable {apart : ∀ desk state, second.desk (first.place desk state) = second.desk state}

theorem spares_onActive (act : Key → Request → Act σ)
    (spared : ∀ key request, mine key = false →
      (first.beside second mine schedule apart).SparedBy (act key request)) :
    (first.beside second mine schedule apart).Spares (second.onActive act) := by
  refine Realm.turns_read (fun _ => id) fun state valid => ?_
  cases named : (second.desk state).active with
  | none => exact Realm.turns_done ()
  | some run => exact (spared run.1 run.2 (valid run (.inl named))).spares

section

variable (back : ∀ desk state, first.desk (second.place desk state) = first.desk state)

include back

theorem spares_changeDesk (change : Desk → Desk)
    (names : ∀ desk, (∀ run, run ∈ desk.active ∨ run ∈ desk.next → mine run.1 = false) →
      ∀ run, run ∈ (change desk).active ∨ run ∈ (change desk).next → mine run.1 = false) :
    (first.beside second mine schedule apart).Spares (second.changeDesk change) := by
  refine Realm.spares_modify (fun state valid => ⟨?_, back _ state⟩) fun _ _ => Realm.turns_done ()
  intro run named
  rw [second.desk_place] at named
  exact names _ valid run named

theorem spares_react (signal : Signal) :
    (first.beside second mine schedule apart).Spares (second.react signal) := by
  cases signal with
  | started =>
      have taken : (first.beside second mine schedule apart).Spares
          (second.changeDesk fun desk => { desk with active := desk.next, next := none }) := by
        refine spares_changeDesk back _ fun desk valid run named => ?_
        exact valid run (.inr (by simpa using named))
      exact taken
  | progressed operation amount =>
      have middle : (first.beside second mine schedule apart).Spares
          (second.onActive fun key _ => .progress key operation amount) :=
        spares_onActive _ fun key _ _ => Realm.sparedBy_progress _ key operation amount
      exact (Realm.sparedBy_switch _ .worker).spares.bind fun _ => middle.bind fun _ =>
        (Realm.sparedBy_switch _ .service).spares.bind fun _ => Realm.turns_done ()
  | cancelRequested => exact Realm.turns_done ()
  | completed =>
      exact spares_onActive _ fun key _ other => Realm.spares_answers (.inl ⟨_, rfl⟩) other
  | failed error =>
      exact spares_onActive _ fun key _ other => Realm.spares_answers (.inr ⟨_, rfl⟩) other
  | told value => exact (Realm.sparedBy_note _ value).spares
  | reported notice => exact (Realm.sparedBy_log _ notice).spares

theorem spares_operate (operation : Job → List Signal × Job) :
    (first.beside second mine schedule apart).Spares (second.operate operation) := by
  refine Realm.spares_modify (fun state valid => ⟨?_, back _ state⟩) fun state _ => ?_
  · intro run named
    rw [second.desk_place] at named
    exact valid run named
  · generalize (_ ++ _ : List Signal) = signals
    induction signals with
    | nil => exact Realm.turns_done ()
    | cons signal signals ih => exact (spares_react back signal).bind fun _ => ih

/-- The second method keeps to its own requests and leaves the desk of the first one alone. -/
theorem avoids_beside (differ : second.method ≠ first.method) :
    (first.beside second mine schedule apart).Avoids second.entrypoint where
  method := differ
  onRequest key request other := by
    have assigned : (first.beside second mine schedule apart).Spares
        (second.changeDesk fun desk => { desk with next := some (key, request) }) := by
      refine spares_changeDesk back _ fun desk valid run named => ?_
      rcases named with active | next
      · exact valid run (.inl active)
      · cases next
        exact other
    exact assigned.bind fun _ => (spares_operate back _).bind fun _ => Realm.turns_done _
  onCancel := spares_operate back fun job => job.cancel.2
  onUpdate := spares_operate back fun job => job.poll.2

/-- Two delegating methods can serve side by side. -/
theorem staffs_beside {dispatcher : Dispatcher σ}
    (found : dispatcher.registry.find? first.method = some first.entrypoint)
    (named : first.method ∉ builtinMethods) (differ : second.method ≠ first.method)
    (methods : ∀ entrypoint ∈ dispatcher.registry.entrypoints,
      entrypoint = first.entrypoint ∨ entrypoint = second.entrypoint)
    (silent : dispatcher.consumer = none) :
    (first.beside second mine schedule apart).Staffs dispatcher where
  found := found
  named := named
  others entrypoint member := by
    refine (methods entrypoint member).imp_right ?_
    rintro rfl
    exact avoids_beside back differ
  consumer := by simp [silent]

end

end Delegate

end RpcDispatch
