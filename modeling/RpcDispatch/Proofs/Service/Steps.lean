import RpcDispatch.Proofs.Service.Run

/-
This file lists the steps of a service.  Every list of steps is a run.
-/

namespace RpcDispatch

variable {σ : Type}

namespace Service

/-- What happens to a service. -/
inductive Step (σ : Type) where
  | notify (arrival : Arrival)
  /-- Another thread acts, for example to give an answer later. -/
  | act (act : Act σ)
  | poll
  | wait
  | waitTimeout
  | shutdown

/-- The service after a step.  Waiting for an event goes on while the inbox is empty. -/
def step (service : Service σ) : Step σ → Service σ
  | .notify arrival => service.notify arrival
  | .act act => { service with exchange := service.exchange.perform act }
  | .poll => service.poll
  | .wait => service.wait?.getD service
  | .waitTimeout => service.waitTimeout
  | .shutdown => service.shutdown

/-- The service after some steps. -/
def after (service : Service σ) (steps : List (Step σ)) : Service σ :=
  steps.foldl step service

/-- What a service may become by any further steps. -/
def Later (service later : Service σ) : Prop :=
  ∃ steps, service.after steps = later

/-- A step of a run leads to a run. -/
theorem Run.step {dispatcher : Dispatcher σ} {taken : List RawRequest} {since : Key}
    {service : Service σ} (run : Run dispatcher taken since service) (step : Step σ) :
    ∃ more later, Run dispatcher more later (service.step step) := by
  cases step with
  | notify arrival => exact ⟨_, _, run.notify arrival⟩
  | act act => exact ⟨_, _, run.act act⟩
  | poll => exact ⟨_, _, run.poll⟩
  | wait =>
      cases woken : service.wait? with
      | none => exact ⟨_, _, by simpa [Service.step, woken] using run⟩
      | some next => exact ⟨_, _, by simpa [Service.step, woken] using run.wait woken⟩
  | waitTimeout => exact ⟨_, _, run.waitTimeout⟩
  | shutdown => exact ⟨_, _, run.shutdown⟩

theorem Run.after {dispatcher : Dispatcher σ} {taken : List RawRequest} {since : Key}
    {service : Service σ} (run : Run dispatcher taken since service) (steps : List (Step σ)) :
    ∃ more later, Run dispatcher more later (service.after steps) := by
  induction steps generalizing taken since service with
  | nil => exact ⟨_, _, run⟩
  | cons step steps ih =>
      obtain ⟨_, _, next⟩ := run.step step
      exact ih next

end Service

end RpcDispatch
