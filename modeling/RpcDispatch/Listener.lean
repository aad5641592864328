/-
This file defines how an endpoint is prepared and bound.  The directory of a local socket is for
its owner alone; a socket that nobody listens at is replaced.
-/

import RpcDispatch.Endpoint.Basic
import RpcDispatch.Files.Tree

namespace RpcDispatch

open Files (Tree)

/-! ### Preparation -/

inductive PreparationFault where
  | missingParent (path : String)
  | createDirectory (path : String) (fault : Files.Fault)
  deriving DecidableEq

def PreparationFault.message : PreparationFault → String
  | .missingParent path => s!"socket path '{path}' has no parent directory"
  | .createDirectory path fault =>
    s!"failed to create socket directory '{path}': {fault.message}"

/-- Makes the directory of a local socket.  What exists in its place is left for binding to
find. -/
def Endpoint.prepare (endpoint : Endpoint) (tree : Tree) : Option PreparationFault × Tree :=
  match endpoint with
  | .tcp _ _ => (none, tree)
  | .unix path =>
    match (Files.Path.parent? path).filter (!·.isEmpty) with
    | none => (some (.missingParent path), tree)
    | some parent =>
      match tree.makeDirectories 0o700 parent.length.succ parent with
      | (none, tree) | (some .alreadyExists, tree) => (none, tree)
      | (some fault, tree) => (some (.createDirectory parent fault), tree)

/-! ### Binding -/

inductive ListenerFault where
  | bind (path reason : String)
  | inUse (path : String)
  | notSocket (path : String)
  deriving DecidableEq

def ListenerFault.message : ListenerFault → String
  | .bind path reason => s!"failed to bind unix listener at {path}: {reason}"
  | .inUse path => s!"existing unix socket {path} is already in use"
  | .notSocket path => s!"unix socket path {path} is not a socket"

/-- The address of a local socket has room for this many bytes, the last of which is zero. -/
def addressSize : Nat := 108

/-- What stands at the address of a socket uses it. -/
def addressFault : Files.Fault → String
  | .alreadyExists => "Address already in use (os error 98)"
  | fault => fault.message

/-- Puts a live socket at a path where nothing stands. -/
def bindAddress (path : String) (tree : Tree) : Except ListenerFault Tree :=
  if path.toList.contains '\x00' then
    .error (.bind path "paths must not contain interior null bytes")
  else if addressSize ≤ path.utf8ByteSize then
    .error (.bind path "path must be shorter than SUN_LEN")
  else
    match tree.create path (.socket true) with
    | (none, tree) => .ok tree
    | (some fault, _) => .error (.bind path (addressFault fault))

/-- Takes a path away. -/
def release (path : String) (tree : Tree) : Tree :=
  match tree.locate path with
  | .ok place => tree.remove place
  | .error _ => tree

namespace Endpoint

/-- Binds an endpoint. -/
def bind (endpoint : Endpoint) (tree : Tree) : Except ListenerFault Tree :=
  match endpoint with
  | .tcp _ _ => .ok tree
  | .unix path =>
    match tree.find? path with
    | none => bindAddress path tree
    | some (.socket false) => bindAddress path (release path tree)
    | some (.socket true) => .error (.inUse path)
    | some _ => .error (.notSocket path)

/-- A listener that stops takes its socket away. -/
def unbind (endpoint : Endpoint) (tree : Tree) : Tree :=
  match endpoint.unixPath? with
  | some path => release path tree
  | none => tree

end Endpoint

end RpcDispatch
