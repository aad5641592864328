import RpcDispatch.Proofs.Service.Iteration

/-
This file defines the runs of a service.  Frames are reported, iterations take what was reported,
and other threads act on requests at any time: between the steps of a run, and at every turn that
an iteration leaves them.
-/

namespace RpcDispatch

open Exchange (Leads)

variable {σ : Type}

namespace Service

/-- A service after some steps.  It has taken the given frames, and it holds tasks for requests
from the key `since` on, because everything before was discarded. -/
inductive Run (dispatcher : Dispatcher σ) : List RawRequest → Key → Service σ → Prop where
  | create (state : σ) (senders : ClientId → Nat → Option SendFault)
      (others : List (List (Act σ))) :
      Run dispatcher [] 0 (.create dispatcher { Exchange.start state senders with others })
  | notify {taken : List RawRequest} {since : Key} {service : Service σ} (arrival : Arrival)
      (run : Run dispatcher taken since service) :
      Run dispatcher taken since (service.notify arrival)
  | act {taken : List RawRequest} {since : Key} {service : Service σ} (act : Act σ)
      (run : Run dispatcher taken since service) :
      Run dispatcher taken since { service with exchange := service.exchange.perform act }
  | poll {taken : List RawRequest} {since : Key} {service : Service σ}
      (run : Run dispatcher taken since service) :
      Run dispatcher (taken ++ service.inbox.requests) since service.poll
  | wait {taken : List RawRequest} {since : Key} {service next : Service σ}
      (run : Run dispatcher taken since service) (woken : service.wait? = some next) :
      Run dispatcher (taken ++ service.inbox.requests) since next
  | waitTimeout {taken : List RawRequest} {since : Key} {service : Service σ}
      (run : Run dispatcher taken since service) :
      Run dispatcher (taken ++ service.inbox.requests) since service.waitTimeout
  | shutdown {taken : List RawRequest} {since : Key} {service : Service σ}
      (run : Run dispatcher taken since service) :
      Run dispatcher taken service.exchange.channels.length service.shutdown

/-- What holds of every run: both ways of waiting end in what polling does. -/
@[elab_as_elim]
theorem Run.induction {dispatcher : Dispatcher σ}
    {motive : ∀ {taken since service}, Run dispatcher taken since service → Prop}
    (create : ∀ state senders others, motive (.create state senders others))
    (notify : ∀ {taken since service} (arrival : Arrival)
      (run : Run dispatcher taken since service), motive run → motive (run.notify arrival))
    (act : ∀ {taken since service} (act : Act σ) (run : Run dispatcher taken since service),
      motive run → motive (run.act act))
    (poll : ∀ {taken since service} (run : Run dispatcher taken since service),
      motive run → motive run.poll)
    (shutdown : ∀ {taken since service} (run : Run dispatcher taken since service),
      motive run → motive run.shutdown)
    {taken : List RawRequest} {since : Key} {service : Service σ}
    (run : Run dispatcher taken since service) : motive run := by
  induction run with
  | create state senders others => exact create state senders others
  | notify arrival run ih => exact notify arrival run ih
  | act step run ih => exact act step run ih
  | poll run ih => exact poll run ih
  | wait run woken ih =>
      obtain rfl := wait?_eq_poll woken
      exact poll run ih
  | @waitTimeout _ _ service run ih =>
      generalize run.waitTimeout = later
      revert later
      rw [service.waitTimeout_eq_poll]
      exact fun _ => poll run ih
  | shutdown run ih => exact shutdown run ih

theorem Run.dispatcher_eq {dispatcher : Dispatcher σ} {taken : List RawRequest} {since : Key}
    {service : Service σ} (run : Run dispatcher taken since service) :
    service.dispatcher = dispatcher := by
  induction run using Run.induction with
  | create state senders others => rfl
  | notify arrival _ ih => exact ih
  | act act _ ih => exact ih
  | poll _ ih => exact ih
  | shutdown _ ih => exact ih

/-- Every run keeps the account of the tasks. -/
theorem Run.keeps {dispatcher : Dispatcher σ} {taken : List RawRequest} {since : Key}
    {service : Service σ} (run : Run dispatcher taken since service) :
    service.dispatcher.Keeps since service.manager service.exchange := by
  induction run using Run.induction with
  | create state senders others =>
      refine ⟨Nat.zero_le _, TaskManager.accounts_empty _ fun key _ => ?_⟩
      simp [Service.create, Exchange.start, Exchange.calls]
  | notify arrival _ ih => exact ih.log arrival.notice
  | @act _ _ service act _ ih =>
      have leads : Leads anyKey noHook service.exchange
          (service.exchange.perform act) := (Leads.refl _).perform act fun _ _ => trivial
      exact ih.quiet leads fun _ => ⟨id, id⟩
  | poll _ ih => exact poll_keeps ih
  | @shutdown _ _ service _ ih =>
      have discarded := (ih.log (.shuttingDown service.manager.size)).discard
      rw [Exchange.length_requests] at discarded
      exact discarded

end Service

end RpcDispatch
