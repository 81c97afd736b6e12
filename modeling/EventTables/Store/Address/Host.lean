import EventTables.Hostname
import EventTables.Text.Digits
import EventTables.Text.Utf8

/-!
# Hosts

What can stand for a host in the address of a database.

A host is a name, or a number between brackets. The number is of the longer
kind: eight groups of hexadecimal digits with colons between them, of which two
colons may leave out a run of zeros, and in the place of the last two groups
there may be a number of the shorter kind, four decimal numbers with points
between them. Names are not looked up, but some characters cannot stand in
them.

Schemes of the Internet are stricter about names, which have to have a spelling
that can be looked up. There a name that ends like a number has to be one, of the
shorter kind but written more loosely: with fewer points, and each part to the base
eight, ten or sixteen.

## Main definitions

* `Host.isShortNumber`, `Host.isLongNumber`: The text is a host's number.
* `Host.isLooseNumber`: The text is a number in the looser form.
* `Host.isName`: The text can be a host's name.
* `Host.internetName?`: The spelling of a host's name in the Internet.
-/

namespace EventTables

namespace Host

/-- The digits are a decimal number of eight bits without leading zeros. -/
def isOctet (digits : List Char) : Bool :=
  !digits.isEmpty && digits.all Char.isDigit && (digits.length = 1 || digits.head? ≠ some '0') &&
    Text.digitsValue digits < 256

/-- The text is a number of four octets. -/
def isShortNumber (cs : List Char) : Bool :=
  let octets := (String.ofList cs).splitOn "."
  octets.length = 4 && octets.all fun o => isOctet o.toList

/-- The text can follow the groups before it, of which so many are missing. A
    run of zeros has been left out already or not. -/
def isRest (shortened : Bool) : Nat → List Char → Bool
  | missing, [] => shortened || missing = 0
  | 0, _ :: _ => false
  | missing + 1, ':' :: rest => !shortened && isRest true missing rest
  | missing + 1, c :: cs =>
    let digits := ((c :: cs).take 4).takeWhile fun c => (Text.hexDigit? c).isSome
    match (c :: cs).drop digits.length with
    | [] => shortened || missing = 0
    | [':'] => false
    | ':' :: rest => isRest shortened missing rest
    | '.' :: _ =>
      !digits.isEmpty && isShortNumber (c :: cs) && (missing = 1 || (shortened && 1 < missing))
    | _ => false

/-- The text is a number of eight groups. -/
def isLongNumber (cs : List Char) : Bool :=
  match cs with
  | ':' :: ':' :: rest => isRest true 7 rest
  | ':' :: _ => false
  | [] => false
  | cs => 1 < cs.length && isRest false 8 cs

/-- The character may not stand in the name of a host. -/
def isForbidden (c : Char) : Bool :=
  c ∈ ['\x00', '\t', '\n', '\r', ' ', '#', '/', ':', '<', '>', '?', '@', '[', '\\', ']', '^', '|']

/-- The text can be a host's name. -/
def isName (cs : List Char) : Bool :=
  !cs.any isForbidden

/-- The text of a name, its escapes resolved, if it is one. -/
def decoded? (cs : List Char) : Option (List Char) :=
  let bytes := Text.percentDecode (Text.bytesOf cs)
  if (Text.Utf8.fault? bytes).isSome then none else some (Text.Utf8.repaired bytes)

/-- The character may not stand in a name of the Internet. -/
def isDenied (c : Char) : Bool :=
  isForbidden c || c.toNat < 0x20 || c = '%' || c = '\x7f'

/-- The spelling of a host's name in the Internet, escapes being resolved. -/
def internetName? (cs : List Char) : Option (List Char) :=
  (decoded? cs).bind (Hostname.spelling? isDenied)

/-- The number that digits to a base stand for. -/
def numberIn? (base : Nat) (digits : List Char) : Option Nat :=
  if digits.isEmpty then none
  else digits.foldlM
    (fun n c => (Text.hexDigit? c).bind fun d => if d < base then some (base * n + d) else none) 0

/-- The number that a part stands for. A zero before other digits makes the base
    eight, and with an `x` sixteen. -/
def partNumber? : List Char → Option Nat
  | '0' :: 'x' :: rest => numberIn? 16 rest
  | '0' :: 'X' :: rest => numberIn? 16 rest
  | '0' :: c :: rest => numberIn? 8 (c :: rest)
  | cs => numberIn? 10 cs

/-- The number that a part stands for in an address, where digits may be missing
    behind an `x`. -/
def addressPartNumber? (cs : List Char) : Option Nat :=
  if cs = ['0', 'x'] || cs = ['0', 'X'] then some 0 else partNumber? cs

/-- The parts of a text with points between them. -/
def parts (cs : List Char) : List (List Char) :=
  ((String.ofList cs).splitOn ".").map String.toList

/-- The text without a point at its end. -/
def withoutLastPoint (cs : List Char) : List Char :=
  if cs.getLast? = some '.' then cs.dropLast else cs

/-- The text is a number of four octets in its looser form, by a reading of its
    parts. The last part stands for all octets that the parts before it leave. -/
def isLooseNumber (number? : List Char → Option Nat) (cs : List Char) : Bool :=
  match (parts cs).mapM number? with
  | none => false
  | some numbers =>
    numbers.length ≤ 4 && numbers.dropLast.all (· < 256) &&
      numbers.getLast?.any (· < Nat.pow 256 (5 - numbers.length))

/-- The text is a number in an address of the Internet. -/
def isInternetNumber (cs : List Char) : Bool :=
  isLooseNumber addressPartNumber? (withoutLastPoint cs)

/-- The text ends like a number. -/
def endsAsNumber (cs : List Char) : Bool :=
  (parts (withoutLastPoint cs)).getLast?.any fun part =>
    (!part.isEmpty && part.all Char.isDigit) || (addressPartNumber? part).isSome

end Host

end EventTables
