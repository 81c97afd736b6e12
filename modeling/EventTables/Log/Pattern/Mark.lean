import EventTables.Text.Class
import EventTables.Text.Digits

/-!
# Marks of a Pattern

The smallest pieces of a regular expression, and the modes in which they are
read.

A mark is a character as it is written or an escape. What a mark may be depends
on three modes. In verbose mode blanks and comments do not count. Where case is
ignored, a character stands for its forms in other cases as well. In narrow mode
families of characters are those of ASCII.

Nothing is known about the characters of other scripts than their numbers. So
outside of narrow mode there are no families of characters, no boundaries of
words and no other cases. Inside of narrow mode nothing may match a part of a
character, so there is no family that holds more than ASCII.

## Main definitions

* `Mode`: How a pattern is read.
* `Mode.skip`: What is left behind blanks and comments.
* `Mark`: A character or an escape.
* `Mark.read?`: Reads a mark.
* `Mark.character?`: The character that a mark names.
-/

namespace EventTables

namespace Pattern

/-- How a pattern is read. -/
structure Mode where
  /-- Blanks and comments do not count. -/
  verbose : Bool
  /-- Case is ignored. -/
  caseless : Bool
  /-- Families of characters are those of ASCII. -/
  narrow : Bool
deriving DecidableEq, Inhabited, Repr

/-- What is left behind blanks and comments. A comment begins with a hash sign
    and ends with the line. -/
def skipBlanks (inComment : Bool) : List Char → List Char
  | [] => []
  | c :: rest =>
    if inComment then skipBlanks (c ≠ '\n') rest
    else if Text.isBlank c then skipBlanks false rest
    else if c = '#' then skipBlanks true rest
    else c :: rest

namespace Mode

/-- The mode in which a pattern begins. -/
def initial : Mode :=
  ⟨false, false, false⟩

/-- What is left behind whatever does not count. -/
def skip (m : Mode) (cs : List Char) : List Char :=
  if m.verbose then skipBlanks false cs else cs

/-- The character that is next in sight. A hash sign is looked past, but not what
    is written behind it. If there is nothing but blanks, a blank is in sight. -/
def inSight? (m : Mode) (cs : List Char) : Option Char :=
  if m.verbose then
    match cs.dropWhile Text.isBlank with
    | [] => cs.head?
    | '#' :: rest => (rest.dropWhile Text.isBlank).head?.or cs.head?
    | c :: _ => some c
  else cs.head?

/-- Characters may be named, their other cases being known if they matter. -/
def namesCharacters (m : Mode) : Bool :=
  m.narrow || !m.caseless

end Mode

/-- A character or an escape. -/
inductive Mark where
  /-- A character as it is written, which may be a sign of the grammar. -/
  | sign (c : Char)
  /-- A character that stands for itself, given by an escape. -/
  | literal (c : Char)
  /-- A character given by two digits, which in narrow mode are those of a byte. -/
  | byte (c : Char)
  /-- The beginning or the end of the text. -/
  | edge
  /-- A place between a word and what is around it, or any other place. -/
  | boundary
  /-- A family of characters, or those outside of it. -/
  | family (negated : Bool)
deriving DecidableEq, Inhabited, Repr

namespace Mark

/-- How many digits belong to an escape by number. -/
def digitCount? : Char → Option Nat
  | 'x' => some 2
  | 'u' => some 4
  | 'U' => some 8
  | _ => none

/-- Reads so many digits behind others that stand for a number. -/
def digits? (m : Mode) : Nat → Nat → List Char → Option (Nat × List Char)
  | 0, n, cs => some (n, cs)
  | missing + 1, n, cs =>
    match m.skip cs with
    | [] => none
    | c :: rest => (Text.hexDigit? c).bind fun d => digits? m missing (16 * n + d) rest

/-- What an escape of one character stands for. Letters and digits have to have
    a meaning, and so have the angle brackets. -/
def escaped? : Char → Option Mark
  | 'a' => some (.literal '\x07')
  | 'f' => some (.literal '\x0c')
  | 't' => some (.literal '\t')
  | 'n' => some (.literal '\n')
  | 'r' => some (.literal '\r')
  | 'v' => some (.literal '\x0b')
  | 'A' => some .edge
  | 'z' => some .edge
  | 'b' => some .boundary
  | 'B' => some .boundary
  | '<' => some .boundary
  | '>' => some .boundary
  | 'd' => some (.family false)
  | 's' => some (.family false)
  | 'w' => some (.family false)
  | 'D' => some (.family true)
  | 'S' => some (.family true)
  | 'W' => some (.family true)
  | c => if c.toNat < 0x80 && !c.isAlphanum then some (.literal c) else none

/-- Reads what stands behind the backslash of an escape. -/
def escape? (m : Mode) : List Char → Option (Mark × List Char)
  | [] => none
  | c :: rest =>
    match digitCount? c with
    | some count => do
      let (n, rest) ← digits? m count 0 rest
      if n.isValidChar then
        return (if c = 'x' then .byte (Char.ofNat n) else .literal (Char.ofNat n), rest)
      else none
    | none => (escaped? c).map (·, rest)

/-- Reads a mark, given its first character and what follows. -/
def read? (m : Mode) (c : Char) (rest : List Char) : Option (Mark × List Char) :=
  if c = '\\' then escape? m rest else some (.sign c, rest)

/-- The character that a mark names, inside of brackets or outside. In narrow
    mode a byte has to be a character, and so has each character in brackets to
    be a byte. -/
def character? (m : Mode) (inBrackets : Bool) (mark : Mark) : Option Char :=
  if m.namesCharacters then
    match mark with
    | .sign c => if m.narrow && inBrackets && 0x80 ≤ c.toNat then none else some c
    | .literal c => if m.narrow && inBrackets && 0x80 ≤ c.toNat then none else some c
    | .byte c => if m.narrow && 0x80 ≤ c.toNat then none else some c
    | _ => none
  else none

/-- The mark is a family of characters that is known. -/
def isFamily (m : Mode) : Mark → Bool
  | .family negated => m.narrow && !negated
  | _ => false

end Mark

end Pattern

end EventTables
