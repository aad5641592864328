/-
This file defines the blank characters of Unicode.
-/

import RpcDispatch.Text.Runs

namespace RpcDispatch.Text

/-- The characters of the property White_Space. -/
def blankRuns : Runs :=
  [(0x9, 0xD), (0x20, 0x20), (0x85, 0x85), (0xA0, 0xA0), (0x1680, 0x1680), (0x2000, 0x200A),
    (0x2028, 0x2029), (0x202F, 0x202F), (0x205F, 0x205F), (0x3000, 0x3000)]

def isBlank (character : Char) : Bool :=
  blankRuns.cover character

/-- The characters between the first and the last one that `isEdge` does not hold of. -/
def trimWhere (isEdge : Char → Bool) (characters : List Char) : List Char :=
  ((characters.dropWhile isEdge).reverse.dropWhile isEdge).reverse

/-- A text without the blanks at its ends. -/
def trim (text : String) : String :=
  String.ofList (trimWhere isBlank text.toList)

end RpcDispatch.Text
