/-!
# Digits

Whole numbers written in decimal or hexadecimal digits, and which texts are numbers
at all.

Digits are ASCII. Reading takes any number of leading zeros, so a number has
many written forms and one printed form. A numeral may have a point and an exponent
as well, and the words for what lies beyond all numbers, or is none, count as
numerals too, in upper or lower case.

## Main definitions

* `decimal`: The digits of a number, without leading zeros.
* `digitsValue`: The number that a run of digits stands for.
* `readUInt64`: An optional plus sign and digits, within 64 bits.
* `NumberFault`: Why a text is no number of some size.
* `checkNumber`: The text is a number below a bound, or why it is not.
* `hexValue?`: The number that a run of hexadecimal digits stands for.
* `isNumeral`: The text is a number, with a point and an exponent or without.
-/

namespace EventTables

namespace Text

/-! ### Decimal digits -/

/-- The decimal digits of a number, the highest first. -/
def decimal (n : Nat) : List Char :=
  Nat.toDigits 10 n

/-- The value of a decimal digit. -/
def digitValue (c : Char) : Nat :=
  c.toNat - '0'.toNat

/-- The number a run of decimal digits stands for. -/
def digitsValue (digits : List Char) : Nat :=
  digits.foldl (fun n c => 10 * n + digitValue c) 0

/-- Reads a number of 64 bits: an optional plus sign, then one or more digits
    and nothing else. -/
def readUInt64 (s : String) : Option UInt64 :=
  let digits := match s.toList with
    | '+' :: rest => rest
    | cs => cs
  if digits ≠ [] ∧ digits.all Char.isDigit ∧ digitsValue digits < UInt64.size then
    some (UInt64.ofNat (digitsValue digits))
  else none

/-- Why a text is no number of some size. -/
inductive NumberFault where
  | empty
  /-- A character is no digit. -/
  | notDigit
  | tooLarge
deriving DecidableEq, Inhabited, Repr

/-- The fault in words. -/
def NumberFault.message : NumberFault → String
  | .empty => "cannot parse integer from empty string"
  | .notDigit => "invalid digit found in string"
  | .tooLarge => "number too large to fit in target type"

/-- Checks digits behind others that stand for a number. The first character
    that is no digit or leads to the bound counts. -/
def checkDigits (bound : Nat) : Nat → List Char → Except NumberFault Unit
  | _, [] => .ok ()
  | n, c :: rest =>
    if !c.isDigit then .error .notDigit
    else if 10 * n + digitValue c < bound then checkDigits bound (10 * n + digitValue c) rest
    else .error .tooLarge

/-- Checks that a text is a number below a bound: an optional plus sign, then
    digits. -/
def checkNumber (bound : Nat) (s : String) : Except NumberFault Unit :=
  match s.toList with
  | [] => .error .empty
  | ['+'] => .error .notDigit
  | '+' :: digits => checkDigits bound 0 digits
  | digits => checkDigits bound 0 digits

/-! ### Hexadecimal digits -/

/-- The value of a hexadecimal digit. -/
def hexDigit? (c : Char) : Option Nat :=
  if '0' ≤ c ∧ c ≤ '9' then some (c.toNat - '0'.toNat)
  else if 'a' ≤ c ∧ c ≤ 'f' then some (c.toNat - 'a'.toNat + 10)
  else if 'A' ≤ c ∧ c ≤ 'F' then some (c.toNat - 'A'.toNat + 10)
  else none

/-- The number that a run of hexadecimal digits stands for. -/
def hexValue? (digits : List Char) : Option Nat :=
  (digits.mapM hexDigit?).map fun values => values.foldl (fun n v => 16 * n + v) 0

/-! ### Numerals -/

/-- The text is empty, or an exponent with its letter. -/
def isExponent (cs : List Char) : Bool :=
  match cs with
  | [] => true
  | e :: rest =>
    let digits := match rest with
      | '+' :: digits => digits
      | '-' :: digits => digits
      | _ => rest
    (e = 'e' || e = 'E') && !digits.isEmpty && digits.all Char.isDigit

/-- The text is a number without a sign: digits with or without a point among
    them and an exponent behind them, or a word. -/
def isUnsigned (cs : List Char) : Bool :=
  let whole := cs.takeWhile Char.isDigit
  let rest := cs.dropWhile Char.isDigit
  let fraction := match rest with
    | '.' :: behind => behind.takeWhile Char.isDigit
    | _ => []
  let rest := match rest with
    | '.' :: behind => behind.dropWhile Char.isDigit
    | _ => rest
  ["inf", "infinity", "nan"].contains (String.ofList (cs.map Char.toLower)) ||
    (!(whole.isEmpty && fraction.isEmpty) && isExponent rest)

/-- The text is a number. -/
def isNumeral (cs : List Char) : Bool :=
  match cs with
  | '+' :: rest => isUnsigned rest
  | '-' :: rest => isUnsigned rest
  | _ => isUnsigned cs

end Text

end EventTables
