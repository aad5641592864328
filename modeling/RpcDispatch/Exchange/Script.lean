/-
This file defines scripts: what an entrypoint does when one of its hooks is called.  A script acts
on requests and on the state of the application, and can touch nothing else of the exchange.
-/

import RpcDispatch.Exchange.Basic

namespace RpcDispatch

/-- A script ends with a result, or acts, or looks at the state or at a channel and goes on. -/
inductive Script (σ ρ : Type) where
  | done (result : ρ)
  | act (step : Act σ) (next : Script σ ρ)
  | read (next : σ → Script σ ρ)
  | look (key : Key) (next : Option Channel → Script σ ρ)

namespace Script

variable {σ ρ τ : Type}

/-- Other threads have a turn before each step of a script. -/
def run : Script σ ρ → Exchange σ → ρ × Exchange σ
  | .done result, exchange => (result, exchange)
  | .act step next, exchange => next.run (exchange.pause.perform step)
  | .read next, exchange => (next exchange.pause.state).run exchange.pause
  | .look key next, exchange => (next (exchange.pause.channel? key)).run exchange.pause

/-- One script after another. -/
def bind : Script σ ρ → (ρ → Script σ τ) → Script σ τ
  | .done result, next => next result
  | .act step rest, next => .act step (rest.bind next)
  | .read rest, next => .read fun state => (rest state).bind next
  | .look key rest, next => .look key fun channel => (rest channel).bind next

instance : Monad (Script σ) where
  pure := .done
  bind := .bind

/-- A script that only acts. -/
def perform (step : Act σ) : Script σ Unit :=
  .act step (.done ())

def state : Script σ σ :=
  .read .done

def channel? (key : Key) : Script σ (Option Channel) :=
  .look key .done

/-- The scripts of a list in order. -/
def sequence (scripts : List (Script σ Unit)) : Script σ Unit :=
  scripts.foldr (fun script rest => script.bind fun _ => rest) (.done ())

end Script

end RpcDispatch
