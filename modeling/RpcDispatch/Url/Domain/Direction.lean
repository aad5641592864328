/-
This file tells in which direction characters are written, and whether a label can be read when
directions mix in a domain name.
-/

import RpcDispatch.Url.Domain.Mark

namespace RpcDispatch.Url.Domain

inductive Direction where
  | leftToRight
  | rightToLeft
  | arabic
  | number
  | arabicNumber
  | separator
  | commonSeparator
  | terminator
  | boundary
  | nonspacing
  | neutral
  deriving DecidableEq

namespace Direction

/-- The characters that are neither letters written from left to right nor marks without room. -/
def runs : List (Nat × Nat × Direction) :=
  [(0x21, 0x22, .neutral), (0x23, 0x25, .terminator), (0x26, 0x2a, .neutral),
    (0x2b, 0x2b, .separator), (0x2c, 0x2c, .commonSeparator), (0x2d, 0x2d, .separator),
    (0x2e, 0x2f, .commonSeparator), (0x30, 0x39, .number), (0x3a, 0x3a, .commonSeparator),
    (0x3b, 0x40, .neutral), (0x5b, 0x60, .neutral), (0x7b, 0x7e, .neutral), (0xa1, 0xa1, .neutral),
    (0xa2, 0xa5, .terminator), (0xa6, 0xae, .neutral), (0xb0, 0xb1, .terminator),
    (0xb6, 0xbf, .neutral), (0xd7, 0xd7, .neutral), (0xf7, 0xf7, .neutral),
    (0x2b9, 0x2ba, .neutral), (0x2c2, 0x2cf, .neutral), (0x2d2, 0x2df, .neutral),
    (0x2e5, 0x2ed, .neutral), (0x2ef, 0x2ff, .neutral), (0x374, 0x375, .neutral),
    (0x387, 0x387, .neutral), (0x3f6, 0x3f6, .neutral), (0x58a, 0x58e, .neutral),
    (0x58f, 0x58f, .terminator), (0x5be, 0x5be, .rightToLeft), (0x5c0, 0x5c0, .rightToLeft),
    (0x5c3, 0x5c3, .rightToLeft), (0x5c6, 0x5c6, .rightToLeft), (0x5d0, 0x5f4, .rightToLeft),
    (0x606, 0x607, .neutral), (0x608, 0x608, .arabic), (0x609, 0x60a, .terminator),
    (0x60b, 0x60b, .arabic), (0x60c, 0x60c, .commonSeparator), (0x60d, 0x60d, .arabic),
    (0x60e, 0x60f, .neutral), (0x61b, 0x64a, .arabic), (0x660, 0x669, .arabicNumber),
    (0x66a, 0x66a, .terminator), (0x66b, 0x66c, .arabicNumber), (0x66d, 0x66f, .arabic),
    (0x671, 0x6d5, .arabic), (0x6de, 0x6de, .neutral), (0x6e5, 0x6e6, .arabic),
    (0x6e9, 0x6e9, .neutral), (0x6ee, 0x6ef, .arabic), (0x6f0, 0x6f9, .number),
    (0x6fa, 0x710, .arabic), (0x712, 0x72f, .arabic), (0x74d, 0x7a5, .arabic),
    (0x7b1, 0x7b1, .arabic), (0x7c0, 0x7ea, .rightToLeft), (0x7f4, 0x7f5, .rightToLeft),
    (0x7f6, 0x7f9, .neutral), (0x7fa, 0x7fa, .rightToLeft), (0x7fe, 0x815, .rightToLeft),
    (0x81a, 0x81a, .rightToLeft), (0x824, 0x824, .rightToLeft), (0x828, 0x828, .rightToLeft),
    (0x830, 0x858, .rightToLeft), (0x85e, 0x85e, .rightToLeft), (0x860, 0x88f, .arabic),
    (0x8a0, 0x8c9, .arabic), (0x9f2, 0x9f3, .terminator), (0x9fb, 0x9fb, .terminator),
    (0xaf1, 0xaf1, .terminator), (0xbf3, 0xbf8, .neutral), (0xbf9, 0xbf9, .terminator),
    (0xbfa, 0xbfa, .neutral), (0xc78, 0xc7e, .neutral), (0xcbf, 0xcbf, .leftToRight),
    (0xcc6, 0xcc6, .leftToRight), (0xe33, 0xe33, .leftToRight), (0xe3f, 0xe3f, .terminator),
    (0xeb3, 0xeb3, .leftToRight), (0xf3a, 0xf3d, .neutral), (0x1390, 0x1399, .neutral),
    (0x1400, 0x1400, .neutral), (0x169b, 0x169c, .neutral), (0x17db, 0x17db, .terminator),
    (0x17f0, 0x180a, .neutral), (0x1940, 0x1945, .neutral), (0x19de, 0x19ff, .neutral),
    (0x1b4e, 0x1b4f, .neutral), (0x1b7f, 0x1b7f, .neutral), (0x200c, 0x200d, .boundary),
    (0x2010, 0x2027, .neutral), (0x2030, 0x2034, .terminator), (0x2035, 0x2043, .neutral),
    (0x2044, 0x2044, .commonSeparator), (0x2045, 0x2056, .neutral), (0x2057, 0x2057, .terminator),
    (0x2058, 0x205e, .neutral), (0x207b, 0x208b, .separator), (0x20a0, 0x20c1, .terminator),
    (0x2104, 0x2104, .neutral), (0x2108, 0x2108, .neutral), (0x2114, 0x2125, .neutral),
    (0x2127, 0x2129, .neutral), (0x212e, 0x212e, .terminator), (0x2135, 0x2138, .rightToLeft),
    (0x213a, 0x213a, .neutral), (0x2140, 0x214d, .neutral), (0x218a, 0x2211, .neutral),
    (0x2212, 0x2212, .separator), (0x2213, 0x2213, .terminator), (0x2214, 0x2335, .neutral),
    (0x237b, 0x2394, .neutral), (0x2396, 0x26ab, .neutral), (0x26ad, 0x27ff, .neutral),
    (0x2900, 0x2bff, .neutral), (0x2ce5, 0x2cea, .neutral), (0x2cf9, 0x2cff, .neutral),
    (0x2e00, 0x2e9e, .neutral), (0x2ea0, 0x2ef2, .neutral), (0x3001, 0x3004, .neutral),
    (0x3008, 0x3020, .neutral), (0x3030, 0x3030, .neutral), (0x3036, 0x3037, .neutral),
    (0x303d, 0x303f, .neutral), (0x30a0, 0x30a0, .neutral), (0x30fb, 0x30fb, .neutral),
    (0x31c0, 0x31e5, .neutral), (0x4dc0, 0x4dff, .neutral), (0xa490, 0xa4c6, .neutral),
    (0xa60d, 0xa60f, .neutral), (0xa673, 0xa673, .neutral), (0xa67e, 0xa67f, .neutral),
    (0xa700, 0xa721, .neutral), (0xa788, 0xa788, .neutral), (0xa828, 0xa82b, .neutral),
    (0xa838, 0xa839, .terminator), (0xa874, 0xa877, .neutral), (0xab6a, 0xab6b, .neutral),
    (0xfb1d, 0xfb1d, .rightToLeft), (0xfb1f, 0xfb4f, .rightToLeft), (0xfb50, 0xfbc2, .arabic),
    (0xfbc3, 0xfbd2, .neutral), (0xfbd3, 0xfd3d, .arabic), (0xfd3e, 0xfd4f, .neutral),
    (0xfd50, 0xfd8f, .arabic), (0xfd90, 0xfd91, .neutral), (0xfd92, 0xfdc7, .arabic),
    (0xfdc8, 0xfdcf, .neutral), (0xfdf0, 0xfdfc, .arabic), (0xfdfd, 0xfe18, .neutral),
    (0xfe31, 0xfe5e, .neutral), (0xfe71, 0xfefc, .arabic), (0xff5f, 0xff65, .neutral),
    (0xffe0, 0xffe1, .terminator), (0xffe2, 0xffe4, .neutral), (0xffe5, 0xffe6, .terminator),
    (0xffe8, 0xffee, .neutral), (0x10101, 0x10101, .neutral), (0x10140, 0x1018c, .neutral),
    (0x10190, 0x101a0, .neutral), (0x102e1, 0x102fb, .number), (0x10800, 0x1091b, .rightToLeft),
    (0x1091f, 0x1091f, .neutral), (0x10920, 0x10a00, .rightToLeft),
    (0x10a10, 0x10a35, .rightToLeft), (0x10a40, 0x10ae4, .rightToLeft),
    (0x10aeb, 0x10b35, .rightToLeft), (0x10b39, 0x10b3f, .neutral),
    (0x10b40, 0x10cff, .rightToLeft), (0x10d00, 0x10d23, .arabic),
    (0x10d30, 0x10d49, .arabicNumber), (0x10d4a, 0x10d65, .rightToLeft),
    (0x10d6e, 0x10d8f, .rightToLeft), (0x10e60, 0x10e7e, .arabicNumber),
    (0x10e80, 0x10ea9, .rightToLeft), (0x10ead, 0x10eb1, .rightToLeft),
    (0x10ec2, 0x10ed8, .arabic), (0x10f00, 0x10f27, .rightToLeft), (0x10f30, 0x10f45, .arabic),
    (0x10f51, 0x10f59, .arabic), (0x10f70, 0x10f81, .rightToLeft),
    (0x10f86, 0x10ff6, .rightToLeft), (0x11052, 0x11065, .neutral), (0x113d4, 0x113d8, .neutral),
    (0x11660, 0x1166c, .neutral), (0x1171e, 0x1171e, .nonspacing),
    (0x11a07, 0x11a08, .leftToRight), (0x11be1, 0x11be1, .neutral),
    (0x11c3f, 0x11c3f, .leftToRight), (0x11fd5, 0x11fdc, .neutral),
    (0x11fdd, 0x11fe0, .terminator), (0x11fe1, 0x11ff1, .neutral), (0x16d6d, 0x16d6f, .neutral),
    (0x16fe2, 0x16fe2, .neutral), (0x1cc00, 0x1cef0, .neutral), (0x1d1e9, 0x1d241, .neutral),
    (0x1d245, 0x1d245, .neutral), (0x1d300, 0x1d356, .neutral), (0x1d6c1, 0x1d6c1, .neutral),
    (0x1d6db, 0x1d6db, .neutral), (0x1d6fb, 0x1d6fb, .neutral), (0x1d715, 0x1d715, .neutral),
    (0x1d735, 0x1d735, .neutral), (0x1d74f, 0x1d74f, .neutral), (0x1d76f, 0x1d76f, .neutral),
    (0x1d789, 0x1d789, .neutral), (0x1d7a9, 0x1d7a9, .neutral), (0x1d7c3, 0x1d7c3, .neutral),
    (0x1e2ff, 0x1e2ff, .terminator), (0x1e5ff, 0x1e5ff, .neutral),
    (0x1e800, 0x1e8cf, .rightToLeft), (0x1e900, 0x1e943, .rightToLeft),
    (0x1e94b, 0x1e95f, .rightToLeft), (0x1ec71, 0x1eebb, .arabic), (0x1eef0, 0x1f12f, .neutral),
    (0x1f16d, 0x1f16f, .neutral), (0x1f1ad, 0x1f1ad, .neutral), (0x1f260, 0x1fbfa, .neutral)]

def of (character : Char) : Direction :=
  match runs.find? fun (first, last, _) =>
      first ≤ character.toNat && character.toNat ≤ last with
  | some (_, _, direction) => direction
  | none => if isNonspacingMark character then .nonspacing else .leftToRight

/-- The directions that make a name one of mixed directions. -/
def isLeftward : Direction → Bool
  | .rightToLeft | .arabic | .arabicNumber => true
  | _ => false

/-- What may stand anywhere in a label of either direction. -/
def isAccompanying : Direction → Bool
  | .number | .separator | .commonSeparator | .terminator | .boundary | .nonspacing
  | .neutral => true
  | _ => false

end Direction

/-- A label that starts from the left holds nothing that is written from the right, and a letter or
a number is its last character apart from marks. -/
def isRightwardLabel (directions : List Direction) : Bool :=
  directions.all (fun direction => direction = .leftToRight || direction.isAccompanying)
    && (directions.reverse.find? (· ≠ .nonspacing)).all
      (fun last => last = .leftToRight || last = .number)

/-- A label that starts from the right holds no letter that is written from the left, ends with a
letter or a number apart from marks, and has numbers of one kind. -/
def isLeftwardLabel (directions : List Direction) : Bool :=
  directions.all (fun direction => direction.isLeftward || direction.isAccompanying)
    && (directions.reverse.find? (· ≠ .nonspacing)).all
      (fun last => last.isLeftward || last = .number)
    && !(directions.contains .number && directions.contains .arabicNumber)

/-- Whether a label can be read in a name of mixed directions. -/
def isReadable (label : List Char) : Bool :=
  let directions := label.map Direction.of
  match directions.head? with
  | none => true
  | some .leftToRight => isRightwardLabel directions
  | some .rightToLeft | some .arabic => isLeftwardLabel directions
  | _ => false

/-- Names that hold no character written from the right need no such rule. -/
def areReadable (labels : List (List Char)) : Bool :=
  !labels.any (·.any fun character => (Direction.of character).isLeftward)
    || labels.all isReadable

end RpcDispatch.Url.Domain
