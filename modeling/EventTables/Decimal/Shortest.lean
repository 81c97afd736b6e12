/-!
# Shortest Decimals

The fewest decimal digits that identify a double.

A double stands for every real that rounds to it, an interval around its exact
value `m · 2^q`. The decimals with `n` digits form a grid, and if some point of
the grid lies in the interval then so does one of the two neighbours of the
exact value on that grid. So for one digit, two digits and so on up to
seventeen, both neighbours are tried in exact arithmetic on naturals: the first
grid with a hit gives the digits, of two hits the nearer one, and of two equally
near ones the even one. Seventeen digits are always enough.

## Main definitions

* `Binary`: A positive finite double as `m · 2^q`.
* `Digits`: Decimal digits with the place of the point.
* `Binary.shortest`: The digits of a double.
* `layout`: The digits as text, plain or with an exponent.
* `ofFloat`: The text of a finite double.
-/

namespace EventTables

namespace Decimal

/-- A positive double: `mantissa · 2^exponent`. The spacing below the value is
    half of the spacing above it where `narrowBelow` is set. -/
structure Binary where
  /-- The whole number that is scaled. -/
  mantissa : Nat
  /-- The power of two it is scaled by. -/
  exponent : Int
  /-- The double below is nearer than the double above. -/
  narrowBelow : Bool

/-- A run of decimal digits read as a whole number times `10^exponent`. -/
structure Digits where
  /-- The digits, the highest first, without a zero at either end. -/
  digits : List Char
  /-- The power of ten the whole number is scaled by. -/
  exponent : Int

namespace Binary

/-- How many fractions the bits of a double tell apart: `2^52`. -/
abbrev fractionSize : Nat := 4503599627370496

/-- The positive double with these bits, its sign bit clear. -/
def ofBits (bits : Nat) : Binary :=
  let field : Nat := bits / fractionSize
  let fraction : Nat := bits % fractionSize
  if field = 0 then ⟨fraction, -1074, false⟩
  else ⟨fractionSize + fraction, (field : Int) - 1075, fraction = 0 && field ≠ 1⟩

/-- A whole number over a power of two, as numerator and denominator. -/
def scaled (n : Nat) (q : Int) : Nat × Nat :=
  if 0 ≤ q then (n * Nat.pow 2 q.toNat, 1) else (n, Nat.pow 2 (-q).toNat)

/-- The power of ten at or next below the value. -/
def magnitude (b : Binary) : Int :=
  let (num, den) := scaled b.mantissa b.exponent
  if den ≤ num then ((Nat.toDigits 10 (num / den)).length : Int) - 1
  else
    let places := (Nat.toDigits 10 (den / num)).length
    if den ≤ num * Nat.pow 10 (places - 1) then 1 - (places : Int) else -(places : Int)

/-- The two sides of a comparison between `x/4 · 2^exponent` and `d · 10^k`,
    both multiplied to whole numbers. -/
def sides (b : Binary) (x d : Nat) (k : Int) : Nat × Nat :=
  (x * Nat.pow 2 b.exponent.toNat * Nat.pow 10 (-k).toNat,
   4 * d * Nat.pow 10 k.toNat * Nat.pow 2 (-b.exponent).toNat)

/-- The decimal `d · 10^k` rounds to the double. The ends of the interval round
    to it when its mantissa is even. -/
def covers (b : Binary) (d : Nat) (k : Int) : Bool :=
  let below := 4 * b.mantissa - (if b.narrowBelow then 1 else 2)
  let above := 4 * b.mantissa + 2
  let (low, atLow) := b.sides below d k
  let (high, atHigh) := b.sides above d k
  if b.mantissa % 2 = 0 then low ≤ atLow && atHigh ≤ high else low < atLow && atHigh < high

/-- How far the decimal `d · 10^k` lies from the value, in a unit that is the
    same for every `d`. -/
def distance (b : Binary) (d : Nat) (k : Int) : Nat :=
  let (exact, here) := b.sides (4 * b.mantissa) d k
  (exact - here) + (here - exact)

/-- The nearest decimal on the grid of step `10^k` that rounds to the double. -/
def onGrid? (b : Binary) (k : Int) : Option Nat :=
  let (num, den) := scaled b.mantissa b.exponent
  let d := num * Nat.pow 10 (-k).toNat / (den * Nat.pow 10 k.toNat)
  match b.covers d k, b.covers (d + 1) k with
  | true, true =>
    let low := b.distance d k
    let high := b.distance (d + 1) k
    if low < high || (low = high && d % 2 = 0) then some d else some (d + 1)
  | true, false => some d
  | false, true => some (d + 1)
  | false, false => none

/-- The decimal of a whole number and a power of ten, without trailing zeros. -/
def trimmed (d : Nat) (k : Int) : Digits :=
  let digits := Nat.toDigits 10 d
  let zeros := (digits.reverse.takeWhile (· = '0')).length
  ⟨digits.take (digits.length - zeros), k + zeros⟩

/-- Tries the grids of `digits` and more digits, `more` of them beyond the
    first. -/
def search (b : Binary) (top : Int) : Nat → Nat → Digits
  | digits, more =>
    let k := top - (digits : Int) + 1
    match b.onGrid? k, more with
    | some d, _ => trimmed d k
    | none, 0 => trimmed b.mantissa b.exponent
    | none, more + 1 => search b top (digits + 1) more
termination_by _ more => more

/-- The fewest digits that identify the double. -/
def shortest (b : Binary) : Digits :=
  b.search b.magnitude 1 16

end Binary

/-- The digits as text. From `10^-5` up to below `10^16` the number is written
    out, with at least one digit on both sides of the point. Outside it is
    written with one digit before the point and a signed exponent. -/
def layout (d : Digits) : List Char :=
  let point := (d.digits.length : Int) + d.exponent
  if 0 ≤ d.exponent ∧ point ≤ 16 then
    d.digits ++ List.replicate d.exponent.toNat '0' ++ ['.', '0']
  else if 0 < point ∧ point ≤ 16 then
    d.digits.take point.toNat ++ '.' :: d.digits.drop point.toNat
  else if -5 < point ∧ point ≤ 0 then
    '0' :: '.' :: List.replicate (-point).toNat '0' ++ d.digits
  else
    let mark := if 0 < point then ['e', '+'] else ['e', '-']
    let fraction := match d.digits.drop 1 with
      | [] => []
      | more => '.' :: more
    d.digits.take 1 ++ fraction ++ mark ++ Nat.toDigits 10 (point - 1).natAbs

/-- The bit that is set in negative doubles: `2^63`. -/
abbrev signBit : Nat := 9223372036854775808

/-- The text of a finite double. -/
def ofFloat (x : Float) : List Char :=
  let bits := x.toBits.toNat
  let sign := if signBit ≤ bits then ['-'] else []
  let rest := bits % signBit
  if rest = 0 then sign ++ ['0', '.', '0']
  else sign ++ layout (Binary.ofBits rest).shortest

end Decimal

end EventTables
