import EventTables.Decimal.Shortest
import EventTables.Text.Digits

/-!
# JSON Numbers

The three kinds of number that a reader tells apart, and how a numeral becomes
one of them.

A whole number without sign, fraction or exponent is kept exactly up to 64
bits, a negative one down to `-2^63`, and everything else is a double. The two
exact kinds hold disjoint ranges of whole numbers, so a whole number has one
representation; a minus sign before zero makes a double.

A double is found by scaling: the digits are gathered into a whole number for
as long as they fit into 64 bits, that number is rounded to a double, and the
double is multiplied or divided by one power of ten. This is fast and not
always the nearest double, and the result is part of what a document means.

## Main definitions

* `Number`: A number of one of the three kinds.
* `Number.digits`: The text of a number.
* `Numeral`: A number as it is written.
* `Numeral.value?`: The number that a numeral stands for.
-/

namespace EventTables

namespace Json

/-- How many negative whole numbers are kept exactly: `2^63`. -/
abbrev negativeCount : Nat := 9223372036854775808

/-- A JSON number. -/
inductive Number where
  /-- A whole number from zero on. -/
  | natural (n : UInt64)
  /-- The whole number `-(m + 1)`. -/
  | negative (m : Fin negativeCount)
  /-- Every other number. -/
  | double (x : Float)
deriving Inhabited

namespace Number

/-- Equality of numbers. Doubles compare as numbers, so that the two zeros are
    equal; a double is never equal to an exact number. -/
def same : Number → Number → Bool
  | .natural a, .natural b => a == b
  | .negative a, .negative b => a == b
  | .double a, .double b => a == b
  | _, _ => false

/-- The text of a number. -/
def digits : Number → List Char
  | .natural n => Text.decimal n.toNat
  | .negative m => '-' :: Text.decimal (m.val + 1)
  | .double x => Decimal.ofFloat x

end Number

/-- A number as it is written. -/
structure Numeral where
  /-- A minus sign comes first. -/
  minus : Bool
  /-- The digits before the point. -/
  whole : List Char
  /-- The digits after the point, if there is one. -/
  fraction : Option (List Char)
  /-- The exponent, if there is one: whether it has a minus sign, and its
      digits. -/
  exponent : Option (Bool × List Char)

namespace Numeral

/-- Digits gathered into a whole number of 64 bits. -/
structure Gathered where
  /-- The digits so far. -/
  significand : Nat
  /-- How many digits were taken in. -/
  taken : Nat
  /-- How many digits found no room. -/
  dropped : Nat

/-- Takes in one digit. After the first that finds no room all are dropped. -/
def Gathered.add (g : Gathered) (c : Char) : Gathered :=
  let next := 10 * g.significand + Text.digitValue c
  if g.dropped = 0 ∧ next < UInt64.size then ⟨next, g.taken + 1, 0⟩
  else ⟨g.significand, g.taken, g.dropped + 1⟩

/-- Divides by `10^n`, in steps while `10^n` is beyond the largest double. -/
def shrink (x : Float) (n : Nat) : Float :=
  if n ≤ 308 then x / Float.ofScientific 1 false n
  else if x == 0.0 then x
  else shrink (x / Float.ofScientific 1 false 308) (n - 308)
termination_by n

/-- The double `significand · 10^exponent`, if it is finite. -/
def scale? (significand : Nat) (exponent : Int) : Option Float :=
  let x := (UInt64.ofNat significand).toFloat
  if exponent < 0 then some (shrink x exponent.natAbs)
  else if exponent ≤ 308 then
    let y := x * Float.ofScientific 1 false exponent.natAbs
    if y.isInf then none else some y
  else if x == 0.0 then some x
  else none

/-- The number that the numeral stands for, unless that is a double beyond the
    largest. -/
def value? (n : Numeral) : Option Number :=
  let whole := n.whole.foldl Gathered.add ⟨0, 0, 0⟩
  let all := (n.fraction.getD []).foldl Gathered.add ⟨whole.significand, 0, 0⟩
  let power : Int := match n.exponent with
    | none => 0
    | some (false, digits) => Text.digitsValue digits
    | some (true, digits) => -(Text.digitsValue digits : Int)
  let double? := (scale? all.significand (whole.dropped - all.taken + power)).map fun x =>
    Number.double (if n.minus then -x else x)
  if n.fraction.isSome ∨ n.exponent.isSome ∨ whole.dropped ≠ 0 then double?
  else if n.minus = false then some (.natural (UInt64.ofNat whole.significand))
  else if h : whole.significand - 1 < negativeCount ∧ whole.significand ≠ 0 then
    some (.negative ⟨whole.significand - 1, h.1⟩)
  else double?

end Numeral

end Json

end EventTables
