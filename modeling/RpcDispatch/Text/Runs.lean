/-
This file defines sets of characters as runs of code points.
-/

namespace RpcDispatch.Text

/-- The first and the last code point of each run. -/
abbrev Runs := List (Nat × Nat)

/-- Whether a character lies in one of the runs. -/
def Runs.cover (runs : Runs) (character : Char) : Bool :=
  runs.any fun (first, last) => first ≤ character.toNat && character.toNat ≤ last

end RpcDispatch.Text
