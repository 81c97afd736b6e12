import EventTables.Text.Digits
import EventTables.Text.Glyph

/-!
# Bytes Meant as Text

Where a string of bytes stops being UTF-8, and bytes that are written as text
themselves.

A character takes one to four bytes. Its first byte tells how many follow, and
bounds the second one so that no character has two encodings and no number is
left unused by one. A fault is told by its place, and by how many bytes from
there on could not be made part of a character. If the bytes end in the middle
of a character, there is no such number.

A byte may also be written as a percent sign and two hexadecimal digits. A percent
sign without two digits behind it stands for itself, so every string of bytes can
be read.

## Main definitions

* `Utf8.Start`: How a string of bytes begins.
* `Utf8.Fault`: Where a string of bytes stops being UTF-8.
* `Utf8.fault?`: The first fault of a string of bytes.
* `Utf8.Fault.message`: The fault in words.
* `Utf8.repaired`: The text of a string of bytes, its faults replaced.
* `percentDecode`: The bytes with the escapes resolved.
* `bytesOf`: The bytes of a text.
-/

namespace EventTables

namespace Text

namespace Utf8

/-- How a string of bytes begins. -/
inductive Start where
  /-- With a character of so many bytes. -/
  | character (size : Nat)
  /-- With so many bytes that cannot be part of a character. -/
  | stray (size : Nat)
  /-- With a character that is not complete. -/
  | cut
deriving DecidableEq, Inhabited, Repr

/-- How many bytes follow the first one of a character. -/
def following? (first : UInt8) : Option Nat :=
  if first < 0x80 then some 0
  else if first < 0xc2 then none
  else if first < 0xe0 then some 1
  else if first < 0xf0 then some 2
  else if first < 0xf5 then some 3
  else none

/-- Between which bytes the second one of a character lies. -/
def secondBounds (first : UInt8) : UInt8 × UInt8 :=
  if first = 0xe0 then (0xa0, 0xbf)
  else if first = 0xed then (0x80, 0x9f)
  else if first = 0xf0 then (0x90, 0xbf)
  else if first = 0xf4 then (0x80, 0x8f)
  else (0x80, 0xbf)

/-- Follows a character of which some bytes have been read and others are
    missing, the next of them between bounds. -/
def follow (seen : Nat) : Nat → UInt8 × UInt8 → List UInt8 → Start
  | 0, _, _ => .character seen
  | _ + 1, _, [] => .cut
  | missing + 1, bounds, b :: rest =>
    if bounds.1 ≤ b ∧ b ≤ bounds.2 then follow (seen + 1) missing (0x80, 0xbf) rest
    else .stray seen

/-- How the bytes begin, given the first one and the others. -/
def startOf (first : UInt8) (rest : List UInt8) : Start :=
  match following? first with
  | some missing => follow 1 missing (secondBounds first) rest
  | none => .stray 1

/-- Where a string of bytes stops being UTF-8. -/
structure Fault where
  /-- The number of bytes before it. -/
  place : Nat
  /-- How many bytes cannot be part of a character, if the bytes do not end
      before that is known. -/
  size? : Option Nat
deriving DecidableEq, Inhabited, Repr

/-- The first fault of the bytes, some others being before them. -/
def faultFrom? (place : Nat) (bytes : List UInt8) : Option Fault :=
  match bytes with
  | [] => none
  | b :: rest =>
    match startOf b rest with
    | .character size => faultFrom? (place + size) (rest.drop (size - 1))
    | .stray size => some ⟨place, some size⟩
    | .cut => some ⟨place, none⟩
termination_by bytes.length
decreasing_by simp only [List.length_cons, List.length_drop]; omega

/-- The first fault of the bytes. -/
def fault? (bytes : List UInt8) : Option Fault :=
  faultFrom? 0 bytes

/-- The fault in words. -/
def Fault.message (f : Fault) : String :=
  match f.size? with
  | some size =>
    "invalid utf-8 sequence of " ++ toString size ++ " bytes from index " ++ toString f.place
  | none => "incomplete utf-8 byte sequence from index " ++ toString f.place

/-- The text of the bytes. In the place of each fault stands a sign of
    replacement. -/
def repaired (bytes : List UInt8) : List Char :=
  match bytes with
  | [] => []
  | b :: rest =>
    match startOf b rest with
    | .character size =>
      (Glyph.leading? (b :: rest)).getD '\ufffd' :: repaired (rest.drop (size - 1))
    | .stray size => '\ufffd' :: repaired (rest.drop (size - 1))
    | .cut => ['\ufffd']
termination_by bytes.length
decreasing_by all_goals simp only [List.length_cons, List.length_drop]; omega

end Utf8

/-! ### Percent escapes -/

/-- The byte of two hexadecimal digits. -/
def hexByte? (a b : UInt8) : Option UInt8 :=
  (hexValue? [Char.ofNat a.toNat, Char.ofNat b.toNat]).map UInt8.ofNat

/-- The bytes with the escapes resolved. -/
def percentDecode : List UInt8 → List UInt8
  | 0x25 :: a :: b :: rest =>
    match hexByte? a b with
    | some byte => byte :: percentDecode rest
    | none => 0x25 :: percentDecode (a :: b :: rest)
  | byte :: rest => byte :: percentDecode rest
  | [] => []

/-- The bytes of a text. -/
def bytesOf (cs : List Char) : List UInt8 :=
  (String.ofList cs).toUTF8.toList

end Text

end EventTables
