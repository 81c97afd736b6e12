import EventTables.Log.Pattern.Bracket
import EventTables.Log.Pattern.Opening

/-!
# Patterns

Which texts are regular expressions.

A log filter may ask for the value of a field by a pattern. Notices have no
values that could be asked for in this way, so what a pattern matches does not
matter here, but a text that is no pattern makes the filter useless. The
grammar is the common one: alternatives, repetitions, groups with names or
flags, and sets of characters in brackets that may be nested and combined. There
are no references back to a group and no looking around. A brace would begin a
count of repetitions, and such a count never ends, since a brace ends what a
filter says about a field.

A pattern is read from the left in one pass. What has to be remembered is which
groups and brackets are open, what may be repeated, in which mode the pattern is
read and how deep its parts are nested.

## Main definitions

* `Part`: What a sequence is made of.
* `Level`: What an open group has seen.
* `Scan`: What is remembered of what has been read.
* `Scan.step?`: Reads on.
* `isPattern`: The text is a pattern.
-/

namespace EventTables

namespace Pattern

/-- What a sequence is made of. -/
inductive Part where
  /-- Flags, of which there is nothing to repeat. -/
  | setting
  /-- An expression of a depth. -/
  | expression (depth : Nat)
deriving DecidableEq, Inhabited, Repr

/-- How deep the part is nested. -/
def Part.depth : Part → Nat
  | .setting => 0
  | .expression depth => depth

/-- What an open group has seen. -/
structure Level where
  /-- The depths of the alternatives before the current one. -/
  branches : List Nat
  /-- The parts of the current alternative, the last one first. -/
  parts : List Part
deriving DecidableEq, Inhabited, Repr

namespace Level

/-- Nothing has been seen yet. -/
def empty : Level :=
  ⟨[], []⟩

/-- How deep the current alternative is nested. -/
def branchDepth (l : Level) : Nat :=
  joined (l.parts.map Part.depth)

/-- How deep all of it is nested. -/
def depth (l : Level) : Nat :=
  joined (l.branchDepth :: l.branches)

/-- Another part has been seen. -/
def add (l : Level) (p : Part) : Level :=
  { l with parts := p :: l.parts }

/-- Another alternative begins. -/
def branch (l : Level) : Level :=
  ⟨l.branchDepth :: l.branches, []⟩

/-- The last part is repeated, if there is one to repeat. -/
def repeat? (l : Level) : Option Level :=
  match l.parts with
  | .expression depth :: parts => some { l with parts := .expression (around [depth]) :: parts }
  | _ => none

end Level

/-- What is remembered of what has been read. -/
structure Scan where
  mode : Mode
  /-- The names of groups. -/
  names : List (List Char)
  /-- What the innermost open group has seen. -/
  level : Level
  /-- What the groups around it have seen, and the mode that each goes back to. -/
  outer : List (Level × Mode)
  /-- The open brackets, the innermost first. -/
  brackets : List Bracket
deriving DecidableEq, Inhabited, Repr

namespace Scan

/-- Nothing has been read yet. -/
def start : Scan :=
  ⟨.initial, [], .empty, [], []⟩

/-- The pattern may end here. -/
def isComplete (s : Scan) : Bool :=
  s.brackets.isEmpty && s.outer.isEmpty && s.level.depth ≤ depthLimit

/-- A part has been read. -/
def add (s : Scan) (p : Part) : Scan :=
  { s with level := s.level.add p }

/-- A parenthesis has been opened. -/
def open? (s : Scan) : Opening → Option Scan
  | .setting mode => some { s.add .setting with mode := mode }
  | .group mode name? =>
    if name?.any s.names.contains then none
    else some
      { s with
        mode := mode, names := name?.toList ++ s.names, level := .empty,
        outer := (s.level, s.mode) :: s.outer }

/-- A parenthesis has been closed. -/
def close? (s : Scan) : Option Scan :=
  match s.outer with
  | [] => none
  | (level, mode) :: outer =>
    some
      { s with
        mode := mode, level := level.add (.expression (around [s.level.depth])), outer := outer }

/-- The mark can stand outside of brackets. -/
def allows (s : Scan) (mark : Mark) : Bool :=
  (mark.character? s.mode false).isSome || mark.isFamily s.mode || mark = .edge ||
    (mark = .boundary && s.mode.narrow)

/-- Reads on outside of brackets, given the first character and what follows. -/
def plain? (s : Scan) (c : Char) (rest : List Char) : Option (Scan × List Char) :=
  match c with
  | '(' => (Opening.read? s.mode rest).bind fun r => (s.open? r.1).map (·, r.2)
  | ')' => s.close?.map (·, rest)
  | '|' => some ({ s with level := s.level.branch }, rest)
  | '[' => some ({ s with brackets := [.opened] }, rest)
  | '{' => none
  | '^' => some (s.add (.expression 0), rest)
  | '$' => some (s.add (.expression 0), rest)
  | '.' => if s.mode.narrow then none else some (s.add (.expression 0), rest)
  | c =>
    if c = '*' || c = '+' || c = '?' then
      s.level.repeat?.map fun level =>
        ({ s with level := level }, if rest.head? = some '?' then rest.drop 1 else rest)
    else
      (Mark.read? s.mode c rest).bind fun r =>
        if s.allows r.1 then some (s.add (.expression 0), r.2) else none

/-- Reads on, given the first character and what follows. -/
def step? (s : Scan) (c : Char) (rest : List Char) : Option (Scan × List Char) :=
  match s.brackets with
  | [] => s.plain? c rest
  | b :: outer =>
    (b.step? s.mode outer c rest).map fun r =>
      match r.1 with
      | .inside brackets => ({ s with brackets := brackets }, r.2)
      | .closed depth => ({ s.add (.expression depth) with brackets := [] }, r.2)

/-- Reads a text to its end. Each step has to leave less of it. -/
def read? (s : Scan) (cs : List Char) : Option Scan :=
  match s.mode.skip cs with
  | [] => some s
  | c :: rest =>
    match s.step? c rest with
    | some (t, behind) => if behind.length < cs.length then read? t behind else none
    | none => none
termination_by cs.length

end Scan

/-- The text is a pattern. -/
def isPattern (cs : List Char) : Bool :=
  (Scan.start.read? cs).any Scan.isComplete

end Pattern

end EventTables
