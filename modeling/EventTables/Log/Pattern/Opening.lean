import EventTables.Log.Pattern.Mark
import EventTables.Text.Alphanumeric

/-!
# Openings of a Pattern

What can stand behind an opening parenthesis in a regular expression.

A group may have a name, or flags that say in which mode it is read. Flags
without a group are for the rest of the group around them. There is no looking
around.

## Main definitions

* `Opening`: What stands behind an opening parenthesis.
* `Opening.read?`: Reads it.
* `Mode.changed?`: A mode with flags.
-/

namespace EventTables

namespace Pattern

/-- The character is a flag, or the sign that turns flags off. -/
def isFlag (c : Char) : Bool :=
  ['-', 'i', 'm', 's', 'U', 'u', 'R', 'x'].contains c

/-- The text consists of flags. No flag is repeated, and there is one to turn
    off. -/
def areFlags (text : List Char) : Bool :=
  text.all isFlag && text.eraseDups.length = text.length && text.getLast? ≠ some '-'

/-- What flags make of one of them, given how it was. -/
def flagIn (text : List Char) (flag : Char) (before : Bool) : Bool :=
  if (text.takeWhile (· ≠ '-')).contains flag then true
  else if text.contains flag then false
  else before

/-- The mode with flags. -/
def Mode.changed? (m : Mode) (text : List Char) : Option Mode :=
  if areFlags text then
    some ⟨flagIn text 'x' m.verbose, flagIn text 'i' m.caseless, !flagIn text 'u' !m.narrow⟩
  else none

/-- The text can be the name of a group: it begins with a letter or a low line,
    and digits, points and brackets may follow. -/
def isName : List Char → Bool
  | [] => false
  | c :: rest =>
    (c = '_' || Text.isLetter c) &&
      rest.all fun c => c = '_' || c = '.' || c = '[' || c = ']' || Text.isAlphanumeric c

/-- What stands behind an opening parenthesis. -/
inductive Opening where
  /-- Flags for what follows. -/
  | setting (mode : Mode)
  /-- A group, with the mode in which it is read. -/
  | group (mode : Mode) (name? : Option (List Char))
deriving DecidableEq, Inhabited, Repr

namespace Opening

/-- Reads the name of a group behind its angle bracket. -/
def named? (m : Mode) (cs : List Char) : Option (Opening × List Char) :=
  let name := cs.takeWhile (· ≠ '>')
  match cs.drop name.length with
  | _ :: rest => if isName name then some (.group m (some name), rest) else none
  | [] => none

/-- Reads flags. They end with the parenthesis, or with a colon before what
    belongs to the group. -/
def flagged? (m : Mode) (cs : List Char) : Option (Opening × List Char) :=
  let text := cs.takeWhile fun c => !(c = ':' || c = ')')
  match cs.drop text.length with
  | ')' :: rest => if text.isEmpty then none else (m.changed? text).map (.setting ·, rest)
  | _ :: rest => (m.changed? text).map (.group · none, rest)
  | [] => none

/-- Reads what stands behind an opening parenthesis. -/
def read? (m : Mode) (cs : List Char) : Option (Opening × List Char) :=
  match m.skip cs with
  | '?' :: 'P' :: '<' :: rest => named? m rest
  | '?' :: '<' :: rest => named? m rest
  | '?' :: rest => flagged? m rest
  | rest => some (.group m none, rest)

end Opening

end Pattern

end EventTables
