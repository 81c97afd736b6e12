/-!
# Punycode

The spelling of labels in other scripts with the characters of ASCII.

The characters of ASCII come first, then a hyphen, and then one number for every
other character, in ascending order of the characters. The number says how many
places have been passed over since the last one: all places of a text for each
character that it has not, and then the places within the text. Numbers are written
with the digits `a` to `z` and `0` to `9`, the lowest first. A digit below a threshold
is the last one, and the thresholds are adapted to the numbers before, so that near
characters have short spellings.

## Main definitions

* `Punycode.encode`: The spelling of a label.
* `Punycode.decode?`: The label of a spelling.
-/

namespace EventTables

namespace Punycode

/-- The digit of a value. -/
def digit (d : Nat) : Char :=
  if d < 26 then Char.ofNat ('a'.toNat + d) else Char.ofNat ('0'.toNat + (d - 26))

/-- The value of a digit. -/
def value? (c : Char) : Option Nat :=
  if 'a' ≤ c ∧ c ≤ 'z' then some (c.toNat - 'a'.toNat)
  else if '0' ≤ c ∧ c ≤ '9' then some (c.toNat - '0'.toNat + 26)
  else none

/-- The threshold for a place, which lies between 1 and 26. -/
def threshold (bias place : Nat) : Nat :=
  min 26 (max 1 (place - bias))

/-- Takes a number down, counting how often. -/
def takeDown (n place : Nat) : Nat × Nat :=
  if h : 455 < n then takeDown (n / 35) (place + 36) else (n, place)
termination_by n
decreasing_by exact Nat.div_lt_self (by omega) (by omega)

/-- The bias after a number, given how many characters there are with its own. -/
def adapted (number count : Nat) (isFirst : Bool) : Nat :=
  let n := if isFirst then number / 700 else number / 2
  let (n, place) := takeDown (n + n / count) 0
  place + 36 * n / (n + 38)

/-- The digits of a number, beginning at a place. -/
def digits (bias place n : Nat) : List Char :=
  let t := threshold bias place
  if n < t then [digit n]
  else digit (t + (n - t) % (36 - t)) :: digits bias (place + 36) ((n - t) / (36 - t))
termination_by n
decreasing_by
  have positive : 1 ≤ threshold bias place := by unfold threshold; omega
  have smaller := Nat.div_le_self (n - threshold bias place) (36 - threshold bias place)
  omega

/-- What is remembered while a label is spelled. -/
structure Encoder where
  /-- The places passed over since the last number. -/
  number : Nat
  bias : Nat
  /-- How many characters have been spelled. -/
  count : Nat
  /-- What has been spelled. -/
  spelling : List Char
deriving DecidableEq, Inhabited, Repr

namespace Encoder

/-- Goes over a place of a label where one character is looked for, and spells it. -/
def pass (basicCount : Nat) (sought : Char) (e : Encoder) (c : Char) : Encoder :=
  if c < sought then { e with number := e.number + 1 }
  else if c = sought then
    ⟨0, adapted e.number (e.count + 1) (e.count = basicCount), e.count + 1,
      e.spelling ++ digits e.bias 36 e.number⟩
  else e

/-- Goes over a label for each of its characters, given the one that would be next. -/
def spell (label : List Char) (basicCount : Nat) : Encoder → Nat → List Char → Encoder
  | e, _, [] => e
  | e, next, sought :: more =>
    let e := { e with number := e.number + (sought.toNat - next) * (e.count + 1) }
    let e := label.foldl (pass basicCount sought) e
    spell label basicCount { e with number := e.number + 1 } (sought.toNat + 1) more

end Encoder

/-- The character belongs to ASCII. -/
def isBasic (c : Char) : Bool :=
  c.toNat < 0x80

/-- The spelling of a label, without a sign that it is one. -/
def encode (label : List Char) : List Char :=
  let basic := label.filter isBasic
  let others := (label.filter fun c => !isBasic c).eraseDups.mergeSort (· ≤ ·)
  let start := if basic.isEmpty then [] else basic ++ ['-']
  (Encoder.spell label basic.length ⟨0, 72, basic.length, start⟩ 0x80 others).spelling

/-- Reads a number at a place, which weighs so much. Numbers have 32 bits. -/
def number? (bias place weight n : Nat) : List Char → Option (Nat × List Char)
  | [] => none
  | c :: cs =>
    match value? c with
    | none => none
    | some d =>
      let n := n + d * weight
      let t := threshold bias place
      if UInt32.size ≤ n then none
      else if d < t then some (n, cs)
      else if UInt32.size ≤ weight * (36 - t) then none
      else number? bias (place + 36) (weight * (36 - t)) n cs

/-- Reads on, given the bias, the character and the place that would be next, and
    what has been read. Each number has to leave less to read. -/
def decodeFrom? (bias next place : Nat) (label cs : List Char) : Option (List Char) :=
  if cs.isEmpty then some label
  else
    match number? bias 36 1 place cs with
    | none => none
    | some (n, rest) =>
      let count := label.length + 1
      let code := next + n / count
      if !code.isValidChar then none
      else if rest.length < cs.length then
        decodeFrom? (adapted (n - place) count (place = 0)) code (n % count + 1)
          (label.take (n % count) ++ Char.ofNat code :: label.drop (n % count)) rest
      else none
termination_by cs.length

/-- The label of a spelling. The last hyphen ends the characters of ASCII, unless it
    comes first. -/
def decode? (spelling : List Char) : Option (List Char) :=
  let basic := (spelling.reverse.dropWhile (· ≠ '-')).drop 1 |>.reverse
  let numbers := if basic.isEmpty then spelling else spelling.drop (basic.length + 1)
  decodeFrom? 72 0x80 0 basic numbers

end Punycode

end EventTables
