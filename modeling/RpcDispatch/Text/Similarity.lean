/-
This file measures how similar two texts are, by the characters that they share at nearby places.
-/

namespace RpcDispatch.Text

namespace Similarity

/-- The first place of a character in a range of places that are not taken. -/
def place? (character : Char) (other : List Char) (taken : List Nat) (first last : Nat) :
    Option Nat :=
  (List.range (min other.length (last + 1))).find? fun place =>
    first ≤ place && !taken.contains place && other[place]? == some character

/-- The places of shared characters in the one text and in the other, in the order of the first.
Places are near each other when they are within `reach`. -/
def matchPlaces (one other : List Char) (reach : Nat) : List (Nat × Nat) :=
  one.zipIdx.foldl (fun matched (character, place) =>
    match place? character other (matched.map Prod.snd) (place - reach) (place + reach) with
    | some found => matched ++ [(place, found)]
    | none => matched) []

/-- The mean of three shares: of each text that is shared, and of the shared characters that are in
the same order. -/
def between (one other : List Char) : Float :=
  let matched := matchPlaces one other (max one.length other.length / 2 - 1)
  let shared := matched.length
  if shared = 0 then 0
  else
    let inOne := matched.map fun (place, _) => one[place]?
    let inOther := ((matched.map Prod.snd).mergeSort (· ≤ ·)).map fun place => other[place]?
    let swapped := ((inOne.zip inOther).filter fun (a, b) => a ≠ b).length / 2
    (shared.toFloat / one.length.toFloat + shared.toFloat / other.length.toFloat
      + (shared - swapped).toFloat / shared.toFloat) / 3

/-- The most similar of some texts, the later of two that are equally similar, if it is more
similar than the threshold. -/
def best? (text : String) (candidates : List String) (threshold : Float) : Option String :=
  (candidates.foldl (fun best candidate =>
    let similarity := between text.toList candidate.toList
    let isBetter := best.elim (decide (threshold < similarity)) fun held => held.1 ≤ similarity
    if isBetter then some (similarity, candidate) else best) none).map Prod.snd

end Similarity

end RpcDispatch.Text
