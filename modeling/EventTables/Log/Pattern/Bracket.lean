import EventTables.Log.Pattern.Mark

/-!
# Brackets of a Pattern

Sets of characters as they are written in a regular expression.

A set is written between brackets: characters, ranges, families, and sets in
brackets of their own. It may be turned around, and two dashes, ampersands or
tildes combine what is before them with what is behind them. The first
characters have rules of their own, so that a dash and a closing bracket can be
members without an escape.

Brackets are read from the left, and what has to be remembered is what each open
bracket has seen. Among it is how deep its parts are nested. A part that has no
parts has the depth zero, and a sequence or a choice of one is that one and adds
nothing. A pattern may not be nested deeper than a limit, so that whoever follows
its parts comes to an end in good time.

## Main definitions

* `around`: The depth of what is put around parts.
* `joined`: The depth of a sequence or a choice.
* `depthLimit`: How deep a pattern may be nested.
* `Bracket`: What an open bracket has seen.
* `Progress`: What comes of reading inside of brackets.
* `Bracket.step?`: Reads a member, or whatever else stands in brackets.
-/

namespace EventTables

namespace Pattern

/-! ### Depth -/

/-- The depth of what is put around parts of these depths. -/
def around (parts : List Nat) : Nat :=
  parts.foldl max 0 + 1

/-- The depth of a sequence or a choice of parts of these depths. -/
def joined : List Nat → Nat
  | [] => 0
  | [depth] => depth
  | parts => around parts

/-- How deep a pattern may be nested. -/
def depthLimit : Nat :=
  250

/-! ### Brackets -/

/-- Where in a bracket the next character stands. -/
inductive Spot where
  /-- Directly behind the bracket. -/
  | opening
  /-- Behind the sign that turns the set around. -/
  | negated
  /-- Behind the dashes that a set may begin with. -/
  | dashes
  /-- Where a member begins. -/
  | member
deriving DecidableEq, Inhabited, Repr

/-- What an open bracket has seen. -/
structure Bracket where
  spot : Spot
  /-- The depths of the members since the last combination. -/
  members : List Nat
  /-- The depth of what is combined with them. -/
  left? : Option Nat
deriving DecidableEq, Inhabited, Repr

/-- What comes of reading inside of brackets. -/
inductive Progress where
  /-- Brackets are open, the innermost first. -/
  | inside (brackets : List Bracket)
  /-- The outermost bracket is closed, and the set is so deep. -/
  | closed (depth : Nat)
deriving DecidableEq, Inhabited, Repr

/-- The names of the families between colons. -/
def familyNames : List String :=
  ["alnum", "alpha", "ascii", "blank", "cntrl", "digit", "graph", "lower", "print", "punct",
   "space", "upper", "word", "xdigit"]

/-- Reads a family between colons behind a bracket, and whether it is turned
    around. -/
def namedFamily? : List Char → Option (Bool × List Char)
  | ':' :: rest =>
    let negated := rest.head? = some '^'
    let rest := if negated then rest.drop 1 else rest
    let name := rest.takeWhile (· ≠ ':')
    match rest.drop name.length with
    | ':' :: ']' :: behind =>
      if familyNames.contains (String.ofList name) then some (negated, behind) else none
    | _ => none
  | _ => none

namespace Bracket

/-- A bracket that has just been opened. -/
def opened : Bracket :=
  ⟨.opening, [], none⟩

/-- The depth of what is in the bracket. -/
def depth (b : Bracket) : Nat :=
  match b.left? with
  | none => joined b.members
  | some left => around [left, joined b.members]

/-- The bracket with another member. -/
def add (b : Bracket) (depth : Nat) : Bracket :=
  { b with spot := .member, members := depth :: b.members }

/-- The bracket behind a sign that combines. -/
def combined (b : Bracket) : Bracket :=
  ⟨.member, [], some b.depth⟩

/-- The bracket is closed, and others are around it. -/
def close (b : Bracket) : List Bracket → Progress
  | [] => .closed (around [b.depth])
  | outer :: more => .inside (outer.add (around [b.depth]) :: more)

/-- Reads what follows the first mark of a member: the dash of a range and its
    upper end, or nothing. -/
def behindMark? (m : Mode) (b : Bracket) (mark : Mark) (rest : List Char) :
    Option (Bracket × List Char) :=
  let single := if (mark.character? m true).isSome || mark.isFamily m then
    some (b.add 0, m.skip rest) else none
  match m.skip rest with
  | '-' :: behind =>
    if m.inSight? behind = some ']' || m.inSight? behind = some '-' then single
    else
      match m.skip behind with
      | [] => none
      | c :: behind => do
        let low ← mark.character? m true
        let (upper, behind) ← Mark.read? m c behind
        let high ← upper.character? m true
        if low ≤ high then return (b.add 0, behind) else none
  | _ => single

/-- Reads a member, given its first character and what follows. -/
def member? (m : Mode) (b : Bracket) (outer : List Bracket) (c : Char) (rest : List Char) :
    Option (Progress × List Char) :=
  if c = '[' then
    match namedFamily? rest with
    | some (negated, behind) =>
      if m.namesCharacters && !(m.narrow && negated) then
        some (.inside (b.add 0 :: outer), behind)
      else none
    | none => some (.inside (opened :: b :: outer), rest)
  else if c = ']' then some (b.close outer, rest)
  else if (c = '&' || c = '-' || c = '~') && rest.head? = some c then
    some (.inside (b.combined :: outer), rest.drop 1)
  else do
    let (mark, rest) ← Mark.read? m c rest
    let (b, rest) ← b.behindMark? m mark rest
    return (.inside (b :: outer), rest)

/-- Goes on at another place, behind a character that is a member there. -/
def literally? (m : Mode) (b : Bracket) (outer : List Bracket) (spot : Spot) (rest : List Char) :
    Option (Progress × List Char) :=
  if m.namesCharacters then some (.inside ({ b.add 0 with spot := spot } :: outer), rest) else none

/-- Reads a member, or whatever else stands in brackets, given the first
    character and what follows. -/
def step? (m : Mode) (b : Bracket) (outer : List Bracket) (c : Char) (rest : List Char) :
    Option (Progress × List Char) :=
  match b.spot, c with
  | .opening, '^' =>
    if m.narrow then none else some (.inside ({ b with spot := .negated } :: outer), rest)
  | .opening, '-' => b.literally? m outer .dashes rest
  | .negated, '-' => b.literally? m outer .dashes rest
  | .dashes, '-' => b.literally? m outer .dashes rest
  | .opening, ']' => b.literally? m outer .member rest
  | .negated, ']' => b.literally? m outer .member rest
  | _, _ => b.member? m outer c rest

end Bracket

end Pattern

end EventTables
