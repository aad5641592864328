/-
This file reads IPv6 addresses and writes them in their shortest form: groups in lower-case digits
without zeros before them, and a double colon for the first of the longest runs of zero groups.
-/

import RpcDispatch.Url.Ipv4

namespace RpcDispatch.Url.Ipv6

/-! ### Reading -/

/-- Up to four hexadecimal digits. -/
def group? (digits : List Char) : Option Nat :=
  if digits.isEmpty || 4 < digits.length then none
  else if digits.all (fun digit => (hexValue? digit).isSome) then some (Ipv4.ofDigits 16 digits)
  else none

/-- The groups of the parts between colons.  The last part may be an IPv4 address, which makes two
groups. -/
def groups? : List (List Char) → Option (List Nat)
  | [] => some []
  | [last] =>
    if last.contains '.' then
      (Ipv4.bytes? last).map fun (first, second, third, fourth) =>
        [first * 256 + second, third * 256 + fourth]
    else (group? last).map ([·])
  | part :: parts => do return (← group? part) :: (← groups? parts)

/-- The groups on both sides of a double colon, which stands for one group or more. -/
def fill? (before after : List (List Char)) : Option (List Nat) := do
  let before ← groups? before
  let after ← groups? (if after = [[]] then [] else after)
  let count := before.length + after.length
  if count ≤ 7 then return before ++ List.replicate (8 - count) 0 ++ after
  else none

/-- The eight groups of an address. -/
def parse? (text : List Char) : Option (List Nat) :=
  let parts := Text.splitAt ':' text
  match parts.takeWhile (!·.isEmpty), parts.dropWhile (!·.isEmpty) with
  | before, [] => (groups? before).filter (·.length = 8)
  | [], _ :: [] :: after => if after = [] then none else fill? [] after
  | [], _ => none
  | before, _ :: after =>
    if after = [] || before.any (·.contains '.') then none else fill? before after

/-! ### Writing -/

/-- How many zero groups there are before the first other one. -/
def zeroRun (groups : List Nat) : Nat :=
  (groups.takeWhile (· = 0)).length

/-- The place and length of the first of the longest runs of zero groups, if one has two. -/
def longestRun (groups : List Nat) : Option (Nat × Nat) :=
  (List.range groups.length).foldl (fun best start =>
    let length := zeroRun (groups.drop start)
    if 1 < length && best.all (·.2 < length) then some (start, length) else best) none

def groupChars (group : Nat) : List Char :=
  Nat.toDigits 16 group

/-- The text of an address. -/
def chars (groups : List Nat) : List Char :=
  match longestRun groups with
  | none => Text.joinAt ':' (groups.map groupChars)
  | some (start, length) =>
    Text.joinAt ':' ((groups.take start).map groupChars) ++ ':' :: ':'
      :: Text.joinAt ':' ((groups.drop (start + length)).map groupChars)

end RpcDispatch.Url.Ipv6
