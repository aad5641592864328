/-
This file defines the registry of entrypoints.  Method names are distinct, and the entrypoints are
kept in increasing order of their names.
-/

import RpcDispatch.Entrypoint.Basic

namespace RpcDispatch

inductive RegistryFault where
  | emptyMethod
  | reserved (method : String)
  | duplicate (method : String)
  deriving DecidableEq

def RegistryFault.message : RegistryFault → String
  | .emptyMethod => "entrypoint method name is empty"
  | .reserved method => s!"method '{method}' is reserved"
  | .duplicate method => s!"method '{method}' is already registered"

structure Registry (σ : Type) where
  reserved : List String
  entrypoints : List (Entrypoint σ)

namespace Registry

variable {σ : Type}

/-- A registry without entrypoints that refuses the given names. -/
def empty (reserved : List String) : Registry σ :=
  ⟨reserved, []⟩

def find? (registry : Registry σ) (method : String) : Option (Entrypoint σ) :=
  registry.entrypoints.find? (·.method == method)

def methods (registry : Registry σ) : List String :=
  registry.entrypoints.map (·.method)

def size (registry : Registry σ) : Nat :=
  registry.entrypoints.length

def isEmpty (registry : Registry σ) : Bool :=
  registry.entrypoints.isEmpty

/-- Inserts an entrypoint before the first one with a greater name. -/
def insertSorted (entrypoint : Entrypoint σ) : List (Entrypoint σ) → List (Entrypoint σ)
  | [] => [entrypoint]
  | other :: rest =>
    if entrypoint.method < other.method then entrypoint :: other :: rest
    else other :: insertSorted entrypoint rest

def add (registry : Registry σ) (entrypoint : Entrypoint σ) :
    Except RegistryFault (Registry σ) :=
  let method := entrypoint.method
  if method.isEmpty then .error .emptyMethod
  else if registry.reserved.contains method then .error (.reserved method)
  else if (registry.find? method).isSome then .error (.duplicate method)
  else .ok { registry with entrypoints := insertSorted entrypoint registry.entrypoints }

/-- Adds an entrypoint and reports it. -/
def register (registry : Registry σ) (entrypoint : Entrypoint σ) (exchange : Exchange σ) :
    Except RegistryFault (Registry σ × Exchange σ) :=
  (registry.add entrypoint).map fun registry =>
    (registry, exchange.log
      (.registered entrypoint.method entrypoint.hasPriority entrypoint.isAsync))

/-- Every entrypoint gets its update, in the order of the names. -/
def update (registry : Registry σ) (exchange : Exchange σ) : Exchange σ :=
  registry.entrypoints.foldl Exchange.callUpdate exchange

def debugText (registry : Registry σ) : String :=
  "EntrypointRegistry \x7b methods: " ++ Text.quotedList registry.methods ++ " \x7d"

end Registry

end RpcDispatch
