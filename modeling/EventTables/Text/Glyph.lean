/-!
# Glyphs

Bytes seen as characters, with a place for the bytes that are none.

A stored document is a string of bytes that is meant to be UTF-8 and need not
be. A reader that stops at the first bad byte would refuse documents whose bad
bytes lie in a part that nobody looks at, so the bytes are first laid out as a
list of glyphs: each is a character, or `none` for a byte that belongs to no
well-formed character. Only the reader of a text that is kept has to ask
whether all of its glyphs are characters.

## Main definitions

* `Glyph`: A character, or a byte that belongs to none.
* `Glyph.ofBytes`: The glyphs of a string of bytes.
* `Glyph.ofText`: The glyphs of a text.
* `Glyph.text?`: The text that the glyphs spell, if each is a character.
* `Glyph.size`, `Glyph.totalSize`: The number of bytes that glyphs take up.
-/

namespace EventTables

/-- A character, or a byte that belongs to no well-formed character. -/
abbrev Glyph := Option Char

namespace Glyph

/-- The character whose encoding the bytes begin with. -/
def leading? (bytes : List UInt8) : Option Char :=
  (bytes.take 4).toByteArray.utf8DecodeChar? 0

/-- The glyphs of the bytes, from the left. A byte that does not begin a
    character is a glyph of its own, and reading goes on with the byte after
    it. -/
def ofBytes : List UInt8 → List Glyph
  | [] => []
  | b :: rest =>
    match leading? (b :: rest) with
    | some c => some c :: ofBytes (rest.drop (c.utf8Size - 1))
    | none => none :: ofBytes rest
termination_by bytes => bytes.length
decreasing_by
  · simp only [List.length_drop, List.length_cons]
    omega
  · simp only [List.length_cons, Nat.lt_add_one]

/-- The glyphs of a text: its characters. -/
def ofText (s : String) : List Glyph :=
  s.toList.map some

/-- The text the glyphs spell, or nothing if some byte belongs to no
    character. -/
def text? (gs : List Glyph) : Option String :=
  (gs.mapM id).map String.ofList

/-- The number of bytes the glyph takes up. -/
def size (g : Glyph) : Nat :=
  match g with
  | some c => c.utf8Size
  | none => 1

/-- The number of bytes the glyphs take up together. -/
def totalSize : List Glyph → Nat
  | [] => 0
  | g :: gs => g.size + totalSize gs

end Glyph

/-- The bytes of the text's encoding. -/
def Text.bytes (s : String) : List UInt8 :=
  s.toUTF8.toList

end EventTables
