/-
This file takes the paths of files apart.  Empty segments and single dots lead nowhere else.
-/

import RpcDispatch.Text.Split

namespace RpcDispatch.Files.Path

/-- Whether a path is given from the root. -/
def isAbsolute (path : String) : Bool :=
  path.toList.head? == some '/'

/-- The path of a name in a directory. -/
def child (directory name : String) : String :=
  if directory.isEmpty || directory.toList.getLast? == some '/' then directory ++ name
  else s!"{directory}/{name}"

/-- The beginning of a path that is no segment: the root, or a dot for the current directory. -/
def start : List Char → List Char
  | '/' :: _ => ['/']
  | ['.'] => ['.']
  | '.' :: '/' :: _ => ['.']
  | _ => []

/-- A segment that leads nowhere else. -/
def isStill (segment : List Char) : Bool :=
  segment.isEmpty || segment == ['.']

/-- The path without its last step, if it has one. -/
def parent? (path : String) : Option String :=
  let start := start path.toList
  let segments := Text.splitAt '/' (path.toList.drop start.length)
  match segments.reverse.dropWhile isStill with
  | [] => if start = ['.'] then some "" else none
  | _ :: above =>
    some (String.ofList (start ++ Text.joinAt '/' (above.dropWhile isStill).reverse))

/-- The names and dots of a path, one for each step. -/
def segments (path : String) : List String :=
  ((Text.splitAt '/' path.toList).filter (!·.isEmpty)).map String.ofList

/-- Whether a path ends with a slash, which asks for a directory. -/
def hasTrailingSlash (path : String) : Bool :=
  path.toList.getLast? == some '/'

/-- The steps to what a path names.  A slash at the end is one more step, to the same place. -/
def steps (path : String) : List String :=
  segments path ++ if hasTrailingSlash path then ["."] else []

end RpcDispatch.Files.Path
