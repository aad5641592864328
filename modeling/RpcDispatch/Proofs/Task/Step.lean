import RpcDispatch.Proofs.Exchange.Move
import RpcDispatch.Task.Basic

/-
This file says what running, cancelling and disconnecting do to a request task and to the
exchange.  Each operation has one statement about the flags and one about the stretch it leads to.
-/

namespace RpcDispatch

open Exchange (Leads)

namespace RequestTask

variable {σ : Type} {closes : Key → Prop} {hooks : Hook → Prop}

/-- Two forms of one task handle the same request with the same entrypoint. -/
structure Same (first second : RequestTask σ) : Prop where
  key : first.key = second.key
  request : first.request = second.request
  entrypoint : first.entrypoint = second.entrypoint

theorem Same.refl (task : RequestTask σ) : task.Same task :=
  ⟨rfl, rfl, rfl⟩

theorem Same.trans {first second third : RequestTask σ} (left : first.Same second)
    (right : second.Same third) : first.Same third :=
  ⟨left.key.trans right.key, left.request.trans right.request,
    left.entrypoint.trans right.entrypoint⟩

/-- A task is pending when it was run by an asynchronous entrypoint for a client that is still
there, and its request waits for an answer. -/
theorem isPending_iff (task : RequestTask σ) (exchange : Exchange σ) :
    task.isPending exchange = true ↔
      task.running = true ∧ task.disconnected = false ∧ task.entrypoint.isAsync = true ∧
        task.request.isNotification = false ∧ exchange.isAnswered task.key = false := by
  simp only [isPending, isAnswered, Exchange.isAnswered, Bool.and_eq_true, Bool.not_eq_true']
  tauto

/-! ### Running -/

/-- What keeps a task from calling its entrypoint. -/
def IsSpent (task : RequestTask σ) : Prop :=
  task.disconnected = true ∨ task.cancelled = true ∨ task.running = true

instance (task : RequestTask σ) : Decidable task.IsSpent :=
  inferInstanceAs (Decidable (_ ∨ _))

/-- A new task is not spent. -/
theorem create_fresh {key : Key} {request : Request} {entrypoint : Entrypoint σ} :
    ¬ (create key request entrypoint).IsSpent := by
  simp [IsSpent, create]

/-- After the request hook is called, no other hook is. -/
theorem invoke_leads (task : RequestTask σ) (exchange : Exchange σ)
    (allowed : task.entrypoint.ClosesOnly closes) :
    Leads closes hooks
      (exchange.record (.called task.entrypoint.method (.request task.key)))
      (task.invoke exchange) := by
  have called : Leads closes hooks
      (exchange.record (.called task.entrypoint.method (.request task.key)))
      (exchange.callRequest task.entrypoint task.key task.request).2 :=
    (task.entrypoint.onRequest task.key task.request).run_leads _
      (allowed.onRequest task.key task.request)
  unfold invoke
  dsimp only
  split
  · exact called
  · next error failed =>
      exact ((called.log _).pause).perform (.error task.key error) fun _ same => by cases same

/-- A task that has not been started and is not barred invokes its entrypoint. -/
theorem run_eq_invoke (task : RequestTask σ) (exchange : Exchange σ) (fresh : ¬ task.IsSpent) :
    task.run exchange =
      ({ task with running := true },
        task.invoke (exchange.log (.taskRunning task.request.client task.request.id
          task.request.method))) := by
  simp only [IsSpent, not_or, Bool.not_eq_true] at fresh
  simp [run, fresh]

/-- Running a task marks it as running, unless it is spent. -/
theorem run_fst (task : RequestTask σ) (exchange : Exchange σ) :
    (task.run exchange).1 = if task.IsSpent then task else { task with running := true } := by
  by_cases spent : task.IsSpent
  · rw [if_pos spent]
    unfold run
    dsimp only
    split_ifs with left cancelled running
    · rfl
    · rfl
    · rfl
    · simp [IsSpent, left, cancelled, running] at spent
  · rw [if_neg spent, task.run_eq_invoke exchange spent]

/-- A task stays the same when it runs. -/
theorem run_same (task : RequestTask σ) (exchange : Exchange σ) :
    (task.run exchange).1.Same task := by
  rw [task.run_fst exchange]
  split_ifs <;> exact ⟨rfl, rfl, rfl⟩

/-- A spent task calls no hook when it runs. -/
theorem run_leads_of_spent (task : RequestTask σ) (exchange : Exchange σ)
    (spent : task.IsSpent) : Leads closes hooks exchange (task.run exchange).2 := by
  unfold run
  dsimp only
  split_ifs with left cancelled running
  · exact (Leads.refl exchange).log _
  · exact ((Leads.refl exchange).pause).perform (.error task.key .taskCancelled)
      fun _ same => by cases same
  · exact .refl exchange
  · simp [IsSpent, left, cancelled, running] at spent

/-- Running a task calls no hook but its request hook. -/
theorem run_leads (task : RequestTask σ) (exchange : Exchange σ)
    (allowed : task.entrypoint.ClosesOnly closes) :
    Leads closes (· = .request task.key) exchange (task.run exchange).2 := by
  by_cases spent : task.IsSpent
  · exact task.run_leads_of_spent exchange spent
  · rw [task.run_eq_invoke exchange spent]
    exact Leads.trans (Leads.call ((Leads.refl exchange).log _) task.entrypoint.method _ rfl)
      (task.invoke_leads _ allowed)

/-- A task that is not spent calls its request hook once when it runs. -/
theorem run_count (task : RequestTask σ) (exchange : Exchange σ) :
    (task.run exchange).2.calls.count (.request task.key) =
      exchange.calls.count (.request task.key) + if task.IsSpent then 0 else 1 := by
  by_cases spent : task.IsSpent
  · rw [if_pos spent]
    have quiet : Leads anyKey noHook exchange (task.run exchange).2 :=
      task.run_leads_of_spent exchange spent
    exact quiet.count_calls exchange.othersCloseOnly_anyKey id
  · rw [if_neg spent, task.run_eq_invoke exchange spent]
    -- the call is counted where it is recorded, and nothing is called after it
    have later : Leads anyKey noHook _ _ :=
      task.invoke_leads
        (exchange.log (.taskRunning task.request.client task.request.id task.request.method))
        task.entrypoint.closesOnly_anyKey
    rw [later.count_calls (Exchange.othersCloseOnly_anyKey _) id]
    simp

/-! ### Cancelling -/

/-- Cancelling is refused, or it marks an asynchronous task and asks one that runs to stop. -/
theorem cancel_cases (task : RequestTask σ) (exchange : Exchange σ) :
    (∃ error, task.cancel exchange = (.error error, task, exchange)) ∨
      task.cancelled = false ∧
        task.cancel exchange = (.ok (), { task with cancelled := true },
          if task.running then exchange.callCancel task.entrypoint task.key else exchange) := by
  unfold cancel
  dsimp only
  split
  · exact .inl ⟨_, rfl⟩
  · split
    · exact .inl ⟨_, rfl⟩
    · next unmarked => exact .inr ⟨by simpa using unmarked, rfl⟩

/-- Cancelling changes the task at most by marking it as cancelled. -/
theorem cancel_task (task : RequestTask σ) (exchange : Exchange σ) :
    (task.cancel exchange).2.1 = task ∨
      (task.cancel exchange).2.1 = { task with cancelled := true } := by
  unfold cancel
  dsimp only
  split_ifs <;> simp

/-- A synchronous task cannot be cancelled. -/
theorem cancel_sync (task : RequestTask σ) (exchange : Exchange σ)
    (sync : task.entrypoint.isAsync = false) : (task.cancel exchange).2.1 = task := by
  simp [cancel, sync]

/-- Cancelling a task calls no other hook than its own. -/
theorem cancel_leads (task : RequestTask σ) (exchange : Exchange σ)
    (allowed : task.entrypoint.ClosesOnly closes) :
    Leads closes (· = .cancel task.key) exchange (task.cancel exchange).2.2 := by
  unfold cancel
  dsimp only
  split_ifs
  · exact .refl exchange
  · exact .refl exchange
  · refine Exchange.call_leads exchange task.entrypoint.method (.cancel task.key) ?_
      task.entrypoint.onCancel allowed.onCancel
    rfl
  · exact .refl exchange

/-! ### Disconnecting -/

/-- Disconnecting a task marks it as disconnected. -/
theorem disconnect_fst (task : RequestTask σ) (exchange : Exchange σ) :
    (task.disconnect exchange).1 = { task with disconnected := true } := by
  unfold disconnect
  dsimp only
  split_ifs with left
  · rw [← left]
  · rfl

/-- The first disconnection closes the request and calls the hook, a later one does nothing. -/
theorem disconnect_leads (task : RequestTask σ) (exchange : Exchange σ)
    (allowed : task.entrypoint.ClosesOnly closes) (own : closes task.key) :
    Leads closes (fun hook => task.disconnected = false ∧ hook = .disconnect task.key) exchange
      (task.disconnect exchange).2 := by
  unfold disconnect
  dsimp only
  split_ifs with left
  · exact .refl exchange
  · have closed : Leads closes
        (fun hook => task.disconnected = false ∧ hook = .disconnect task.key) exchange
        (exchange.pause.perform (.close task.key)) :=
      ((Leads.refl exchange).pause).perform _ fun key same => by
        cases same
        exact own
    have called : Leads closes
        (fun hook => task.disconnected = false ∧ hook = .disconnect task.key) exchange
        ((exchange.pause.close task.key).callDisconnect task.entrypoint task.key).2 :=
      closed.trans (Exchange.call_leads _ task.entrypoint.method (.disconnect task.key)
        ⟨by simpa using left, rfl⟩ task.entrypoint.onDisconnect allowed.onDisconnect)
    split
    · next result => rwa [result] at called
    · next failure result =>
        rw [result] at called
        exact called.log _

/-- After the disconnect hook of a task is called, no other hook is. -/
theorem disconnect_called (task : RequestTask σ) (exchange : Exchange σ)
    (here : task.disconnected = false) :
    Leads anyKey noHook
      ((exchange.pause.close task.key).record
        (.called task.entrypoint.method (.disconnect task.key)))
      (task.disconnect exchange).2 := by
  have called : Leads anyKey noHook
      ((exchange.pause.close task.key).record
        (.called task.entrypoint.method (.disconnect task.key)))
      ((exchange.pause.close task.key).callDisconnect task.entrypoint task.key).2 :=
    task.entrypoint.onDisconnect.run_leads _ (Script.closesOnly_anyKey _)
  unfold disconnect
  dsimp only
  rw [if_neg (by simp [here])]
  split
  · next result => rwa [result] at called
  · next failure result =>
      rw [result] at called
      exact called.log _

/-- The hook is called once for a task that was not disconnected before. -/
theorem disconnect_count (task : RequestTask σ) (exchange : Exchange σ) :
    (task.disconnect exchange).2.calls.count (.disconnect task.key) =
      exchange.calls.count (.disconnect task.key) + if task.disconnected then 0 else 1 := by
  cases left : task.disconnected with
  | true => simp [disconnect, left]
  | false =>
      have turn : Leads anyKey noHook exchange exchange.pause := exchange.pause_leads
      rw [(task.disconnect_called exchange left).count_calls (Exchange.othersCloseOnly_anyKey _) id,
        ← turn.count_calls exchange.othersCloseOnly_anyKey id, Exchange.record_called_calls,
        List.count_append]
      simp [Exchange.close_calls]

end RequestTask

end RpcDispatch
