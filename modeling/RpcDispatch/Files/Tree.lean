/-
This file defines trees of files, as far as sockets need them: what stands at a path, and how
directories are made.
-/

import RpcDispatch.Files.Path
import RpcDispatch.Text.Utf8

namespace RpcDispatch.Files

inductive Node where
  | file
  | directory (mode : Nat)
  /-- Somebody listens at a live socket. -/
  | socket (isLive : Bool)
  deriving DecidableEq

inductive Fault where
  | alreadyExists
  | nameTooLong
  | notDirectory
  | notFound
  | nullByte
  deriving DecidableEq

def Fault.message : Fault → String
  | .alreadyExists => "File exists (os error 17)"
  | .nameTooLong => "File name too long (os error 36)"
  | .notDirectory => "Not a directory (os error 20)"
  | .notFound => "No such file or directory (os error 2)"
  | .nullByte => "file name contained an unexpected NUL byte"

/-- The nodes below the root, each at the names on the way to it. -/
structure Tree where
  nodes : List (List String × Node)

namespace Tree

def empty : Tree :=
  ⟨[]⟩

/-- The root is always there. -/
def node? (tree : Tree) (place : List String) : Option Node :=
  if place.isEmpty then some (.directory 0o755) else tree.nodes.lookup place

def put (tree : Tree) (place : List String) (node : Node) : Tree :=
  ⟨tree.nodes.filter (·.1 != place) ++ [(place, node)]⟩

def remove (tree : Tree) (place : List String) : Tree :=
  ⟨tree.nodes.filter (·.1 != place)⟩

/-- The place that some steps lead to.  Every step starts from a directory. -/
def walk (tree : Tree) : (place : List String) → (steps : List String) →
    Except Fault (List String)
  | place, [] => .ok place
  | place, step :: steps =>
    match tree.node? place with
    | none => .error .notFound
    | some (.directory _) =>
      if step = "." then tree.walk place steps
      else if step = ".." then tree.walk place.dropLast steps
      else if 255 < step.utf8ByteSize then .error .nameTooLong
      else tree.walk (place ++ [step]) steps
    | some _ => .error .notDirectory

/-- The place that the steps of a path lead to. -/
def follow (tree : Tree) (path : String) (steps : List String) : Except Fault (List String) :=
  if path.toList.contains '\x00' then .error .nullByte
  else if 4095 < path.utf8ByteSize then .error .nameTooLong
  else tree.walk [] steps

/-- The place of a path. -/
def locate (tree : Tree) (path : String) : Except Fault (List String) :=
  tree.follow path (Path.steps path)

/-- What stands at a path. -/
def find? (tree : Tree) (path : String) : Option Node :=
  (tree.locate path).toOption.bind tree.node?

def isDirectory (tree : Tree) (path : String) : Bool :=
  match tree.find? path with
  | some (.directory _) => true
  | _ => false

/-- Puts a node where nothing stands.  A slash at the end of its path is for directories alone. -/
def create (tree : Tree) (path : String) (node : Node) : Option Fault × Tree :=
  match tree.follow path (Path.segments path) with
  | .error fault => (some fault, tree)
  | .ok place =>
    match tree.node? place, node with
    | some _, _ => (some .alreadyExists, tree)
    | none, .directory _ => (none, tree.put place node)
    | none, _ =>
      if Path.hasTrailingSlash path then (some .notFound, tree) else (none, tree.put place node)

/-- Makes a directory, and before it those above it that are missing.  A directory that is there
is left as it is. -/
def makeDirectories (mode : Nat) : (fuel : Nat) → (path : String) → Tree → Option Fault × Tree
  | 0, _, tree => (none, tree)
  | fuel + 1, path, tree =>
    match Path.parent? path with
    | none => (none, tree)
    | some parent =>
      match tree.create path (.directory mode) with
      | (some .notFound, _) =>
        match makeDirectories mode fuel parent tree with
        | (some fault, tree) => (some fault, tree)
        | (none, tree) => settle path (tree.create path (.directory mode))
      | result => settle path result
where
  /-- A directory that is there already is no fault. -/
  settle (path : String) (result : Option Fault × Tree) : Option Fault × Tree :=
    if result.1 = some .alreadyExists && result.2.isDirectory path then (none, result.2)
    else result

end Tree

end RpcDispatch.Files
