import EventTables.Hostname.Mapping
import EventTables.Hostname.Punycode
import EventTables.Text.Composition
import EventTables.Text.Direction
import EventTables.Text.Joining

/-!
# Host Names

The names of hosts in all scripts, and how they are spelled for looking them up.

A name is a row of labels with points between them. Before it is taken apart, its
characters are replaced by what they stand for and composed, so that different ways to
write a name come to the same. Whoever looks up a name knows ASCII only, so the labels
get a spelling of their own. Which characters of ASCII can stand in a name is up to
those who ask.

The spelling of a label in another script begins with `xn--`. It may be written in the
place of its label, so labels are told by their characters, whichever way they are
written.

Some labels could be taken for others and are refused. A label does not begin with a
mark, a joiner stands only where it changes the form of letters, and where letters
from the right are in a name, each label keeps one direction.

## Main definitions

* `Label.read?`: The label that is written in some way.
* `Label.isSound`: The label cannot be taken for another.
* `Label.keepsDirection`: The label has one direction.
* `Label.spelling`: The label with the characters of ASCII.
* `Hostname.settled?`: A name with its characters replaced and composed.
* `Hostname.spelling?`: The spelling of a name.
-/

namespace EventTables

namespace Hostname

namespace Label

/-- What a spelling begins with. -/
def spellingSign : List Char :=
  "xn--".toList

/-- How long a spelling may be, behind its sign. Reading it takes time that grows with
    the square of its length. -/
def longestSpelling : Nat :=
  2000

/-- How long a label in another script may be. -/
def longestLabel : Nat :=
  1000

/-- All characters belong to ASCII. -/
def isBasic (label : List Char) : Bool :=
  label.all Punycode.isBasic

/-- The text is as it would be after replacing characters and composing. -/
def isSettled (label : List Char) : Bool :=
  label.all (fun c => mapped? c = some [c]) && Text.composed label = label

/-- The label that is written in some way. A spelling has to stand for something that
    ASCII has no characters for. -/
def read? (written : List Char) : Option (List Char) :=
  if spellingSign.isPrefixOf written then
    let spelling := written.drop spellingSign.length
    if !isBasic written || longestSpelling < spelling.length then none
    else (Punycode.decode? spelling).filter fun label => !isBasic label && isSettled label
  else some written

/-- A joiner fits behind some text, given from its end, and before another. Behind a
    sign that takes a vowel away it always fits. The one that separates fits between
    letters that would be joined, too. -/
def joinerFits (before : List Char) (c : Char) (behind : List Char) : Bool :=
  match before with
  | [] => false
  | last :: _ =>
    Text.combiningClass last = 9 ||
      (c = '\u200c' && Text.joinsOnward before && Text.joinsBack behind)

/-- All joiners fit, given what is before, from its end. -/
def joinersFit (before : List Char) : List Char → Bool
  | [] => true
  | c :: behind =>
    (!isJoiner c || joinerFits before c behind) && joinersFit (c :: before) behind

/-- The label cannot be taken for another. -/
def isSound (label : List Char) : Bool :=
  isBasic label ||
    (!label.head?.any Text.isMark && joinersFit [] label && label.length ≤ longestLabel)

/-- The label has a character that comes from the right. -/
def comesFromRight (label : List Char) : Bool :=
  label.any fun c => [.fromRight, .arabicLetter, .arabicDigit].contains (Text.directionOf c)

/-- The label has one direction: it begins with a letter, and its characters go with
    this letter, the last one that is no mark in particular. Only digits of one kind
    stand among letters from the right. -/
def keepsDirection (label : List Char) : Bool :=
  let directions := label.map Text.directionOf
  let ends := fun allowed : List Text.Direction =>
    ((directions.reverse.dropWhile (· = .mark)).head?).all allowed.contains
  match directions with
  | [] => true
  | .fromLeft :: _ =>
    directions.all [.fromLeft, .europeanDigit, .neutral, .mark].contains &&
      ends [.fromLeft, .europeanDigit]
  | first :: _ =>
    (first = .fromRight || first = .arabicLetter) && !directions.contains .fromLeft &&
      ends [.fromRight, .arabicLetter, .arabicDigit, .europeanDigit] &&
      !(directions.contains .arabicDigit && directions.contains .europeanDigit)

/-- The label with the characters of ASCII. -/
def spelling (label : List Char) : List Char :=
  if isBasic label then label else spellingSign ++ Punycode.encode label

end Label

/-! ### Names -/

/-- The name with its characters replaced by what they stand for, and composed. -/
def settled? (name : List Char) : Option (List Char) :=
  (name.mapM mapped?).map fun cs => Text.composed cs.flatten

/-- The parts between points. -/
def labels (name : List Char) : List (List Char) :=
  ((String.ofList name).splitOn ".").map String.toList

/-- The spelling of a name, which is refused if it has certain characters. -/
def spelling? (isRefused : Char → Bool) (name : List Char) : Option (List Char) := do
  let written ← settled? name
  if written.any isRefused then none
  let read ← (labels written).mapM Label.read?
  if !read.all Label.isSound then none
  if read.any Label.comesFromRight && !read.all Label.keepsDirection then none
  return ['.'].intercalate (read.map Label.spelling)

end Hostname

end EventTables
