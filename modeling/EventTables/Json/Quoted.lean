import EventTables.Json.Error
import EventTables.Text.Digits
import EventTables.Text.Glyph

/-!
# JSON Strings

A string as it is written between its quotes, and the text it stands for.

Taking a string apart and making sense of it are two steps. `scan` finds the
end of the string and cuts what comes before it into pieces, and that is all
that is asked of a string nobody keeps. `Scanned.text` reads the pieces as a
text, and there the two halves of a surrogate pair have to stand together and
every byte has to belong to a character.

A string that is kept is refused at its first fault, and a half pair may come
before the place where the string breaks off. So the pieces before a break are
kept with it.

## Main definitions

* `Piece`: A glyph, or a code unit given by its number.
* `Ending`: How a string comes to its end.
* `scan`: The pieces of a string, its ending, and what follows it.
* `Scanned.text`: The text of a string, or its first fault.
* `encode`: A text as it is written in a string.
-/

namespace EventTables

namespace Json

namespace Quoted

/-- One piece of a string. -/
inductive Piece where
  /-- A glyph that stands for itself, or a character with a short escape. -/
  | glyph (g : Glyph)
  /-- A UTF-16 code unit given by four hexadecimal digits. -/
  | unit (u : Nat)

/-- How a string comes to its end. -/
inductive Ending where
  /-- By the closing quote. -/
  | closed
  /-- The document ends first. -/
  | cut
  /-- A control character stands by itself. -/
  | control
  /-- An escape has an unknown letter. -/
  | badLetter
  /-- A numbered escape lacks one of its four digits. -/
  | badDigits
deriving DecidableEq

/-- The fault that an ending is, for a reader that keeps nothing. -/
def Ending.fault? : Ending → Option Fault
  | .closed => none
  | .cut => some .endInString
  | .control => some .controlCharacter
  | .badLetter => some .badEscape
  | .badDigits => some .badEscape

/-- A string taken apart. -/
structure Scanned where
  pieces : List Piece
  ending : Ending
  /-- What follows the string. -/
  rest : List Glyph

/-- The string with one more piece in front. -/
def Scanned.push (p : Piece) (s : Scanned) : Scanned :=
  { s with pieces := p :: s.pieces }

/-- The character of a short escape, by its letter. -/
def shortEscape? : Char → Option Char
  | '\"' => some '\"'
  | '\\' => some '\\'
  | '/' => some '/'
  | 'b' => some '\x08'
  | 'f' => some '\x0c'
  | 'n' => some '\n'
  | 'r' => some '\r'
  | 't' => some '\t'
  | _ => none

/-- The value of a hexadecimal digit of either case. -/
def hexDigit? (g : Glyph) : Option Nat :=
  g.bind Text.hexDigit?

/-- The code unit of four hexadecimal digits. -/
def unit? (a b c d : Glyph) : Option Nat := do
  let a ← hexDigit? a
  let b ← hexDigit? b
  let c ← hexDigit? c
  let d ← hexDigit? d
  return ((a * 16 + b) * 16 + c) * 16 + d

/-- Takes apart the string that begins after an opening quote. A numbered
    escape is cut short by the end of the document if fewer than four bytes
    are left of it. -/
def scan : List Glyph → Scanned
  | [] => ⟨[], .cut, []⟩
  | some '\"' :: rest => ⟨[], .closed, rest⟩
  | some '\\' :: some 'u' :: a :: b :: c :: d :: rest =>
    match unit? a b c d with
    | some u => (scan rest).push (.unit u)
    | none => ⟨[], .badDigits, []⟩
  | some '\\' :: some 'u' :: rest =>
    if Glyph.totalSize rest < 4 then ⟨[], .cut, []⟩ else ⟨[], .badDigits, []⟩
  | some '\\' :: some letter :: rest =>
    match shortEscape? letter with
    | some c => (scan rest).push (.glyph (some c))
    | none => ⟨[], .badLetter, []⟩
  | some '\\' :: none :: _ => ⟨[], .badLetter, []⟩
  | [some '\\'] => ⟨[], .cut, []⟩
  | some c :: rest =>
    if c.toNat < 32 then ⟨[], .control, []⟩ else (scan rest).push (.glyph (some c))
  | none :: rest => (scan rest).push (.glyph none)

/-- The unit is the first half of a surrogate pair. -/
def isLeading (u : Nat) : Bool := 0xD800 ≤ u && u < 0xDC00

/-- The unit is the second half of a surrogate pair. -/
def isTrailing (u : Nat) : Bool := 0xDC00 ≤ u && u < 0xE000

/-- The character of a surrogate pair. -/
def pairChar (u v : Nat) : Char :=
  Char.ofNat (0x10000 + (u - 0xD800) * 0x400 + (v - 0xDC00))

/-- The fault of a first half that nothing follows before the ending. -/
def Ending.afterLeading : Ending → Fault
  | .cut => .endInString
  | .badDigits => .badEscape
  | _ => .unpairedEscape

/-- The glyphs of the pieces, or the first fault among the pieces and the
    ending. -/
def glyphs (ending : Ending) : List Piece → Except Fault (List Glyph)
  | [] => match ending.fault? with
    | none => .ok []
    | some f => .error f
  | .glyph g :: rest => (glyphs ending rest).map (g :: ·)
  | [.unit u] =>
    if isTrailing u then .error .loneSurrogate
    else if isLeading u then .error ending.afterLeading
    else (glyphs ending []).map (some (Char.ofNat u) :: ·)
  | .unit u :: .glyph g :: rest =>
    if isTrailing u then .error .loneSurrogate
    else if isLeading u then .error .unpairedEscape
    else (glyphs ending (.glyph g :: rest)).map (some (Char.ofNat u) :: ·)
  | .unit u :: .unit v :: rest =>
    if isTrailing u then .error .loneSurrogate
    else if isLeading u then
      if isTrailing v then (glyphs ending rest).map (some (pairChar u v) :: ·)
      else .error .loneSurrogate
    else (glyphs ending (.unit v :: rest)).map (some (Char.ofNat u) :: ·)

/-- The text of the string, or its first fault. Bytes that belong to no
    character are a fault only of a string that is sound up to its end. -/
def Scanned.text (s : Scanned) : Except Fault String := do
  let gs ← glyphs s.ending s.pieces
  match Glyph.text? gs with
  | some t => .ok t
  | none => .error .notUnicode

/-- A character as it is written in a string. The quote, the backslash and the
    control characters are escaped, the latter by their letter where they have
    one. -/
def encodeChar (c : Char) : List Char :=
  match c with
  | '\"' => ['\\', '\"']
  | '\\' => ['\\', '\\']
  | '\x08' => ['\\', 'b']
  | '\x0c' => ['\\', 'f']
  | '\n' => ['\\', 'n']
  | '\r' => ['\\', 'r']
  | '\t' => ['\\', 't']
  | c =>
    if c.toNat < 32 then
      ['\\', 'u', '0', '0', Nat.digitChar (c.toNat / 16), Nat.digitChar (c.toNat % 16)]
    else [c]

/-- A text between quotes, as JSON writes it. -/
def encode (s : String) : List Char :=
  '\"' :: s.toList.flatMap encodeChar ++ ['\"']

end Quoted

end Json

end EventTables
