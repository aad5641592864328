/-
This file cuts texts at the places where a character stands.
-/

namespace RpcDispatch.Text

/-- The parts between the places where `mark` stands.  There is one part more than marks. -/
def splitAt (mark : Char) : List Char → List (List Char)
  | [] => [[]]
  | character :: rest =>
    if character = mark then [] :: splitAt mark rest
    else
      match splitAt mark rest with
      | [] => [[character]]
      | part :: parts => (character :: part) :: parts

/-- The parts with a mark between each two. -/
def joinAt (mark : Char) (parts : List (List Char)) : List Char :=
  [mark].intercalate parts

end RpcDispatch.Text
