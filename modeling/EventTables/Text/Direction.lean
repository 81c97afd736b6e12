import EventTables.Text.Class

/-!
# Directions

Which way characters are written.

Letters are written from the left or from the right. Those of Arabic are told
apart from others that come from the right, and so are its digits from those of
Europe. Signs take the direction of what is around them, and so do marks. The
ranges leave out characters that cannot occur in the name of a host, so that a
range can go on behind them.

## Main definitions

* `Direction`: How a character behaves.
* `directionOf`: How a character behaves among others.
-/

namespace EventTables

namespace Text

/-- How a character behaves where directions meet. -/
inductive Direction where
  | fromLeft
  | fromRight
  | arabicLetter
  | arabicDigit
  | europeanDigit
  /-- A sign with no direction of its own. -/
  | neutral
  /-- A mark, which goes with the character before. -/
  | mark
deriving DecidableEq, Inhabited, Repr

/-- The characters from the right, as ranges with both ends included. -/
def fromRightRanges : List (Nat × Nat) :=
  [(0x5be, 0x5f4), (0x7c0, 0x7f5), (0x7fa, 0x85e), (0x10800, 0x1091b), (0x10920, 0x10b35),
   (0x10b40, 0x10cff), (0x10d40, 0x10d4f), (0x10d6f, 0x10d8f), (0x10e80, 0x10eb1),
   (0x10f00, 0x10f27), (0x10f70, 0x10ff6), (0x1e800, 0x1e95f)]

/-- The letters of Arabic. -/
def arabicLetterRanges : List (Nat × Nat) :=
  [(0x608, 0x608), (0x60b, 0x60b), (0x60d, 0x60d), (0x61b, 0x64a), (0x66d, 0x6d5), (0x6e5, 0x6e6),
   (0x6ee, 0x6ef), (0x6fa, 0x7b1), (0x860, 0x8c9), (0xfbb2, 0xfbc2), (0xfe73, 0xfe73),
   (0x10d00, 0x10d23), (0x10ec2, 0x10ec7), (0x10f30, 0x10f59), (0x1ec71, 0x1ed3d)]

/-- The digits of Arabic, and signs that belong to them. -/
def arabicDigitRanges : List (Nat × Nat) :=
  [(0x660, 0x669), (0x66b, 0x66c), (0x10d30, 0x10d39), (0x10e60, 0x10e7e)]

/-- The digits that are used in Europe, with those of Persia. -/
def europeanDigitRanges : List (Nat × Nat) :=
  [(0x30, 0x39), (0x6f0, 0x6f9), (0x102e1, 0x102fb)]

/-- The signs, those of ASCII included. -/
def neutralRanges : List (Nat × Nat) :=
  [(0x0, 0x2f), (0x3a, 0x60), (0x7b, 0xd7), (0xf7, 0xf7), (0x2b9, 0x2ba), (0x2c2, 0x2cf),
   (0x2d2, 0x2ed), (0x2ef, 0x2ff), (0x375, 0x375), (0x3f6, 0x3f6), (0x58a, 0x58f), (0x606, 0x607),
   (0x609, 0x60a), (0x60c, 0x60c), (0x60e, 0x60f), (0x66a, 0x66a), (0x6de, 0x6de), (0x6e9, 0x6e9),
   (0x7f6, 0x7f9), (0x9f2, 0x9f3), (0x9fb, 0x9fb), (0xaf1, 0xaf1), (0xbf3, 0xbfa), (0xc78, 0xc7e),
   (0xe3f, 0xe3f), (0xf3a, 0xf3d), (0x1390, 0x1399), (0x1400, 0x1400), (0x169b, 0x169c),
   (0x17db, 0x17db), (0x17f0, 0x180a), (0x1940, 0x1945), (0x19de, 0x19ff), (0x200c, 0x214d),
   (0x218a, 0x2335), (0x237b, 0x2394), (0x2396, 0x26ab), (0x26ad, 0x27ff), (0x2900, 0x2bff),
   (0x2ce5, 0x2cea), (0x2cf9, 0x2cff), (0x2e00, 0x3004), (0x3008, 0x3020), (0x3030, 0x3030),
   (0x3037, 0x3037), (0x303d, 0x303f), (0x30a0, 0x30a0), (0x30fb, 0x30fb), (0x31c0, 0x31e5),
   (0x4dc0, 0x4dff), (0xa490, 0xa4c6), (0xa60d, 0xa60f), (0xa673, 0xa67f), (0xa700, 0xa721),
   (0xa788, 0xa788), (0xa828, 0xa82b), (0xa838, 0xa839), (0xa874, 0xa877), (0xab6a, 0xab6b),
   (0xfbc3, 0xfe46), (0x10101, 0x10101), (0x10140, 0x1018c), (0x10190, 0x101a0), (0x1091f, 0x1091f),
   (0x10b39, 0x10b3f), (0x10d6e, 0x10d6e), (0x10ed0, 0x10ed8), (0x11052, 0x11065),
   (0x11660, 0x1166c), (0x11fd5, 0x11ff1), (0x16fe2, 0x16fe2), (0x1cc00, 0x1cef0),
   (0x1d1e9, 0x1d245), (0x1d300, 0x1d356), (0x1e2ff, 0x1e2ff), (0x1eef0, 0x1f12f),
   (0x1f16d, 0x1f16f), (0x1f1ad, 0x1f1ad), (0x1f260, 0x1fbfa)]

/-- Marks without room of their own that count as letters from the left. -/
def letterlikeMarkRanges : List (Nat × Nat) :=
  [(0xcbf, 0xcbf), (0xcc6, 0xcc6), (0x11a07, 0x11a08), (0x11c3f, 0x11c3f)]

/-- How a character behaves among others. One mark with room of its own behaves
    like those without. -/
def directionOf (c : Char) : Direction :=
  if (isNonspacing c && !liesIn letterlikeMarkRanges c) || c.toNat = 0x1171e then .mark
  else if liesIn fromRightRanges c then .fromRight
  else if liesIn arabicLetterRanges c then .arabicLetter
  else if liesIn arabicDigitRanges c then .arabicDigit
  else if liesIn europeanDigitRanges c then .europeanDigit
  else if liesIn neutralRanges c then .neutral
  else .fromLeft

end Text

end EventTables
