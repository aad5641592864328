/-
This file tells where the invisible joiners may stand in a label: after a virama, and the
non-joiner also between letters that would join.
-/

import RpcDispatch.Url.Domain.Mark

namespace RpcDispatch.Url.Domain

/-- On which sides a letter joins its neighbours. -/
inductive Joining where
  | left
  | right
  | dual
  | transparent
  | none
  deriving DecidableEq

namespace Joining

def runs : List (Nat × Nat × Joining) :=
  [(0x620, 0x620, .dual), (0x622, 0x625, .right), (0x626, 0x626, .dual), (0x627, 0x627, .right),
    (0x628, 0x628, .dual), (0x629, 0x629, .right), (0x62a, 0x62e, .dual), (0x62f, 0x632, .right),
    (0x633, 0x63f, .dual), (0x641, 0x647, .dual), (0x648, 0x648, .right), (0x649, 0x64a, .dual),
    (0x66e, 0x66f, .dual), (0x671, 0x673, .right), (0x675, 0x677, .right), (0x678, 0x687, .dual),
    (0x688, 0x699, .right), (0x69a, 0x6bf, .dual), (0x6c0, 0x6c0, .right), (0x6c1, 0x6c2, .dual),
    (0x6c3, 0x6cb, .right), (0x6cc, 0x6cc, .dual), (0x6cd, 0x6cd, .right), (0x6ce, 0x6ce, .dual),
    (0x6cf, 0x6cf, .right), (0x6d0, 0x6d1, .dual), (0x6d2, 0x6d3, .right), (0x6d5, 0x6d5, .right),
    (0x6ee, 0x6ef, .right), (0x6fa, 0x6fc, .dual), (0x6ff, 0x6ff, .dual), (0x710, 0x710, .right),
    (0x712, 0x714, .dual), (0x715, 0x719, .right), (0x71a, 0x71d, .dual), (0x71e, 0x71e, .right),
    (0x71f, 0x727, .dual), (0x728, 0x728, .right), (0x729, 0x729, .dual), (0x72a, 0x72a, .right),
    (0x72b, 0x72b, .dual), (0x72c, 0x72c, .right), (0x72d, 0x72e, .dual), (0x72f, 0x72f, .right),
    (0x74d, 0x74d, .right), (0x74e, 0x758, .dual), (0x759, 0x75b, .right), (0x75c, 0x76a, .dual),
    (0x76b, 0x76c, .right), (0x76d, 0x770, .dual), (0x771, 0x771, .right), (0x772, 0x772, .dual),
    (0x773, 0x774, .right), (0x775, 0x777, .dual), (0x778, 0x779, .right), (0x77a, 0x77f, .dual),
    (0x7ca, 0x7ea, .dual), (0x840, 0x840, .right), (0x841, 0x845, .dual), (0x846, 0x847, .right),
    (0x848, 0x848, .dual), (0x849, 0x849, .right), (0x84a, 0x853, .dual), (0x854, 0x854, .right),
    (0x855, 0x855, .dual), (0x856, 0x858, .right), (0x860, 0x860, .dual), (0x862, 0x865, .dual),
    (0x867, 0x867, .right), (0x868, 0x868, .dual), (0x869, 0x882, .right), (0x886, 0x886, .dual),
    (0x889, 0x88d, .dual), (0x88e, 0x88e, .right), (0x88f, 0x88f, .dual), (0x8a0, 0x8a9, .dual),
    (0x8aa, 0x8ac, .right), (0x8ae, 0x8ae, .right), (0x8af, 0x8b0, .dual), (0x8b1, 0x8b2, .right),
    (0x8b3, 0x8b8, .dual), (0x8b9, 0x8b9, .right), (0x8ba, 0x8c8, .dual), (0x1807, 0x1807, .dual),
    (0x1820, 0x1878, .dual), (0x1887, 0x18a8, .dual), (0x18aa, 0x18aa, .dual),
    (0xa840, 0xa871, .dual), (0xa872, 0xa872, .left), (0xfb50, 0xfb51, .right),
    (0xfb52, 0xfb81, .dual), (0xfb82, 0xfb8d, .right), (0xfb8e, 0xfba3, .dual),
    (0xfba4, 0xfba5, .right), (0xfba6, 0xfbad, .dual), (0xfbae, 0xfbb1, .right),
    (0xfbd3, 0xfbd6, .dual), (0xfbd7, 0xfbe3, .right), (0xfbe4, 0xfc5a, .dual),
    (0xfc5b, 0xfc5c, .right), (0xfc5d, 0xfcf1, .dual), (0xfcf5, 0xfd3b, .dual),
    (0xfd3c, 0xfd3d, .right), (0xfd50, 0xfd8f, .dual), (0xfd92, 0xfdc7, .dual),
    (0xfdf0, 0xfdf1, .dual), (0xfdf2, 0xfdf3, .right), (0xfdf4, 0xfdf5, .dual),
    (0xfdf6, 0xfdf6, .right), (0xfdf7, 0xfdf7, .dual), (0xfdf8, 0xfdf8, .right),
    (0xfdf9, 0xfdf9, .dual), (0xfdfc, 0xfdfc, .right), (0xfe81, 0xfe88, .right),
    (0xfe89, 0xfe8c, .dual), (0xfe8d, 0xfe8e, .right), (0xfe8f, 0xfe92, .dual),
    (0xfe93, 0xfe94, .right), (0xfe95, 0xfea8, .dual), (0xfea9, 0xfeb0, .right),
    (0xfeb1, 0xfeec, .dual), (0xfeed, 0xfeee, .right), (0xfeef, 0xfefc, .dual),
    (0x10ac0, 0x10ac4, .dual), (0x10ac5, 0x10ac5, .right), (0x10ac7, 0x10ac7, .right),
    (0x10ac9, 0x10aca, .right), (0x10acd, 0x10acd, .left), (0x10ace, 0x10ad2, .right),
    (0x10ad3, 0x10ad6, .dual), (0x10ad7, 0x10ad7, .left), (0x10ad8, 0x10adc, .dual),
    (0x10add, 0x10add, .right), (0x10ade, 0x10ae0, .dual), (0x10ae1, 0x10ae1, .right),
    (0x10ae4, 0x10ae4, .right), (0x10aeb, 0x10aee, .dual), (0x10aef, 0x10aef, .right),
    (0x10b80, 0x10b80, .dual), (0x10b81, 0x10b81, .right), (0x10b82, 0x10b82, .dual),
    (0x10b83, 0x10b85, .right), (0x10b86, 0x10b88, .dual), (0x10b89, 0x10b89, .right),
    (0x10b8a, 0x10b8b, .dual), (0x10b8c, 0x10b8c, .right), (0x10b8d, 0x10b8d, .dual),
    (0x10b8e, 0x10b8f, .right), (0x10b90, 0x10b90, .dual), (0x10b91, 0x10b91, .right),
    (0x10ba9, 0x10bac, .right), (0x10bad, 0x10bae, .dual), (0x10d00, 0x10d00, .left),
    (0x10d01, 0x10d21, .dual), (0x10d22, 0x10d22, .right), (0x10d23, 0x10d23, .dual),
    (0x10ec2, 0x10ec2, .right), (0x10ec3, 0x10ec4, .dual), (0x10ec6, 0x10ec7, .dual),
    (0x10f30, 0x10f32, .dual), (0x10f33, 0x10f33, .right), (0x10f34, 0x10f44, .dual),
    (0x10f51, 0x10f53, .dual), (0x10f54, 0x10f54, .right), (0x10f70, 0x10f73, .dual),
    (0x10f74, 0x10f75, .right), (0x10f76, 0x10f81, .dual), (0x10fb0, 0x10fb0, .dual),
    (0x10fb2, 0x10fb3, .dual), (0x10fb4, 0x10fb6, .right), (0x10fb8, 0x10fb8, .dual),
    (0x10fb9, 0x10fba, .right), (0x10fbb, 0x10fbc, .dual), (0x10fbd, 0x10fbd, .right),
    (0x10fbe, 0x10fbf, .dual), (0x10fc1, 0x10fc1, .dual), (0x10fc2, 0x10fc3, .right),
    (0x10fc4, 0x10fc4, .dual), (0x10fc9, 0x10fc9, .right), (0x10fca, 0x10fca, .dual),
    (0x10fcb, 0x10fcb, .left), (0x1e900, 0x1e943, .dual), (0x1e94b, 0x1e94b, .transparent),
    (0x1ee00, 0x1ee00, .right), (0x1ee01, 0x1ee02, .dual), (0x1ee03, 0x1ee06, .right),
    (0x1ee07, 0x1ee12, .dual), (0x1ee13, 0x1ee13, .right), (0x1ee14, 0x1ee17, .dual),
    (0x1ee18, 0x1ee18, .right), (0x1ee19, 0x1ee7e, .dual), (0x1ee80, 0x1ee80, .right),
    (0x1ee81, 0x1ee82, .dual), (0x1ee83, 0x1ee83, .right), (0x1ee84, 0x1ee84, .dual),
    (0x1ee85, 0x1ee86, .right), (0x1ee87, 0x1ee92, .dual), (0x1ee93, 0x1ee93, .right),
    (0x1ee94, 0x1ee97, .dual), (0x1ee98, 0x1ee98, .right), (0x1ee99, 0x1eea2, .dual),
    (0x1eea3, 0x1eea6, .right), (0x1eea7, 0x1eeb2, .dual), (0x1eeb3, 0x1eeb3, .right),
    (0x1eeb4, 0x1eeb7, .dual), (0x1eeb8, 0x1eeb8, .right), (0x1eeb9, 0x1eebb, .dual)]

/-- Marks without room are transparent. -/
def of (character : Char) : Joining :=
  match runs.find? fun (first, last, _) =>
      first ≤ character.toNat && character.toNat ≤ last with
  | some (_, _, joining) => joining
  | .none => if isNonspacingMark character then .transparent else .none

end Joining

/-- Whether the first character that is not transparent joins in one of the given ways. -/
def joinsAs (ways : List Joining) (characters : List Char) : Bool :=
  ((characters.map Joining.of).find? (· ≠ .transparent)).any ways.contains

/-- Whether every joiner of a label stands in a fit place, where `before` is what precedes the
rest in reverse. -/
def areJoinersPlaced : (before : List Char) → List Char → Bool
  | _, [] => true
  | before, character :: rest =>
    let isPlaced :=
      if character = '\u200c' then
        before.head?.any isVirama
          || joinsAs [.left, .dual] before && joinsAs [.right, .dual] rest
      else if character = '\u200d' then before.head?.any isVirama
      else true
    isPlaced && areJoinersPlaced (character :: before) rest

end RpcDispatch.Url.Domain
