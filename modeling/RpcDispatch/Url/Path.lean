/-
This file resolves the paths of URLs: a dot segment stands for the place where it is, a double-dot
segment for the place above.
-/

import RpcDispatch.Text.Split
import RpcDispatch.Url.Escape

namespace RpcDispatch.Url.Path

/-- One dot, escaped or not. -/
def isDot (segment : List Char) : Bool :=
  segment == ['.'] || segment == ['%', '2', 'e'] || segment == ['%', '2', 'E']

/-- Two dots, escaped or not. -/
def isDoubleDot : List Char → Bool
  | '.' :: rest => isDot rest
  | '%' :: '2' :: 'e' :: rest => isDot rest
  | '%' :: '2' :: 'E' :: rest => isDot rest
  | _ => false

/-- A letter and a colon or bar name a drive, which a double dot does not leave. -/
def isDrive : List Char → Bool
  | letter :: mark :: rest =>
    letter.isAlpha && (mark = ':' || mark = '|') && (rest.isEmpty || rest.head? == some '\\')
  | _ => false

/-- The segments above the last one, which come first. -/
def above : List (List Char) → List (List Char)
  | [] => []
  | segment :: rest => if isDrive segment then segment :: rest else rest

/-- The segments that are kept, where those before come in reverse order.  A dot segment at the
end leaves an empty segment. -/
def keep (before : List (List Char)) : List (List Char) → List (List Char)
  | [] => before.reverse
  | [last] =>
    if isDoubleDot last then ([] :: above before).reverse
    else if isDot last then ([] :: before).reverse
    else (last :: before).reverse
  | segment :: rest =>
    if isDoubleDot segment then keep (above before) rest
    else if isDot segment then keep before rest
    else keep (segment :: before) rest

/-- A path below the root, given by what follows its first slash. -/
def belowRoot (text : List Char) : List Char :=
  '/' :: Text.joinAt '/' (keep [] ((Text.splitAt '/' text).map (escapeWhere isUnsafeInPath)))

/-- The path after a host, which is empty or below the root. -/
def afterHost : List Char → List Char
  | [] => []
  | '/' :: rest => belowRoot rest
  | text => belowRoot text

end RpcDispatch.Url.Path
