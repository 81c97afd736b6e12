import EventTables.Log.Notice
import EventTables.Log.Pattern
import EventTables.Text.Class
import EventTables.Text.Digits

/-!
# Filters

Which notices are shown.

A filter is a list of rules, written with commas between them. Of the rules that
are about a notice, the one that says most about it decides, and of equal ones
the last. A notice is shown if it matters at least as much as the level of that
rule. A single rule that cannot be read makes the whole text useless.

A rule is a level, which holds for all notices, or the beginning of a target, or
both with an equals sign between them. Where there is no level everything is
shown. Behind the target there may be brackets with the name of a span, that is
of something that takes time and during which notices are given, or with a field
in braces, or with both. No notice here is given during a span, so a rule with a
span is about none of them. The same goes for a field with a value, which is
asked of the span as well. A field without a value is asked of the notice.

Blanks before and behind a rule do not count when its parts are told apart, and
yet they are part of it: a part is found at a number of bytes from the first
character that is not blank, and taken at the same number of bytes from the
beginning. So a rule with blanks before it says something else than without, or
cannot be read.

## Main definitions

* `Demand`: What a rule asks of a notice besides its target.
* `Rule`: From which level on some of the notices are shown.
* `Rule.ofText?`: The rule of a text.
* `Rule.covers`: The rule is about the notice.
* `Rule.outranks`: One rule says more about a notice than another.
* `Filter`: A list of rules.
* `Filter.ofText?`: The filter of a text.
* `Filter.uniform`: The filter that is the same for all targets.
* `Filter.shows`: The filter shows the notice.
-/

namespace EventTables

/-! ### Rules -/

/-- The level of a number: how many levels are shown. -/
def Level.ofCount? : Nat → Option (Option Level)
  | 0 => some none
  | 1 => some (some .error)
  | 2 => some (some .warn)
  | 3 => some (some .info)
  | 4 => some (some .debug)
  | 5 => some (some .trace)
  | _ => none

/-- The level of a text: a name, in upper or lower case, or a number. -/
def Level.ofText? (s : String) : Option (Option Level) :=
  match s.toLower with
  | "off" => some none
  | "error" => some (some .error)
  | "warn" => some (some .warn)
  | "info" => some (some .info)
  | "debug" => some (some .debug)
  | "trace" => some (some .trace)
  | _ => (Text.readUInt64 s).bind fun n => Level.ofCount? n.toNat

/-- What a rule asks of a notice besides its target. -/
inductive Demand where
  | nothing
  /-- A field of this name. -/
  | field (name : String)
  /-- A span around the notice. -/
  | span
deriving DecidableEq, Inhabited, Repr

namespace Demand

/-- The notice does what is asked. -/
def isMet (n : Notice) : Demand → Bool
  | .nothing => true
  | .field name => name = "message" || n.fields.any fun f => f.1 = name
  | .span => false

/-- Asking for a field is more than asking for nothing. Of two fields the later
    one by name counts as more. -/
def exceeds : Demand → Demand → Bool
  | .field _, .nothing => true
  | .field a, .field b => b < a
  | _, _ => false

/-- What is asked by the text in braces: a field, and a value if there is an
    equals sign. The value is a number or a pattern. -/
def ofField? (s : String) : Option Demand :=
  match s.toList.dropWhile (· ≠ '=') with
  | [] => if s = "" then none else some (.field s)
  | _ :: rest =>
    let value := rest.takeWhile (· ≠ '=')
    if Text.isNumeral value || Pattern.isPattern value then some .span else none

end Demand

/-- From which level on some of the notices are shown. -/
structure Rule where
  /-- What the targets begin with. -/
  target : String
  demand : Demand
  /-- The least level that is shown, if any is. -/
  least : Option Level
deriving DecidableEq, Inhabited, Repr

namespace Rule

/-- The text without so many bytes at its beginning, if they are whole
    characters. -/
def dropBytes? : Nat → List Char → Option (List Char)
  | 0, cs => some cs
  | _ + 1, [] => none
  | n + 1, c :: cs => if c.utf8Size ≤ n + 1 then dropBytes? (n + 1 - c.utf8Size) cs else none

/-- So many bytes at the beginning of the text, if they are whole characters. -/
def takeBytes? : Nat → List Char → Option (List Char)
  | 0, _ => some []
  | _ + 1, [] => none
  | n + 1, c :: cs =>
    if c.utf8Size ≤ n + 1 then (takeBytes? (n + 1 - c.utf8Size) cs).map (c :: ·) else none

/-- The number of bytes of the characters. -/
def size (cs : List Char) : Nat :=
  (String.ofList cs).utf8ByteSize

/-- The part of a rule that begins at a place and is as long as the characters. -/
def part? (whole : List Char) (place : Nat) (cs : List Char) : Option String :=
  ((dropBytes? place whole).bind (takeBytes? (size cs))).map String.ofList

/-- The character may begin a rule. -/
def mayBegin (c : Char) : Bool :=
  Text.isAlphanumeric c || c = '-' || c = ':' || c = '_'

/-- The level of a rule, which begins at a place and ends with the rule. -/
def levelFrom? (whole : List Char) (place : Nat) : Option (Option Level) := do
  let cs ← dropBytes? place whole
  if cs.isEmpty then some (some .trace) else Level.ofText? (String.ofList cs)

/-- The level behind brackets, given the characters behind them and the place of
    the first one. -/
def levelBehind? (whole : List Char) (place : Nat) : List Char → Option (Option Level)
  | [] => some (some .trace)
  | '=' :: _ => levelFrom? whole (place + 1)
  | _ => none

/-- The rule with brackets, given the characters behind the first bracket and the
    place of the first one. -/
def withBrackets? (target : String) (whole : List Char) (place : Nat) (cs : List Char) :
    Option Rule := do
  let name := cs.takeWhile fun c => !(c = ']' || c = '{')
  let span ← part? whole place name
  let place := place + size name + 1
  match cs.drop name.length with
  | ']' :: rest => return ⟨target, .span, ← levelBehind? whole place rest⟩
  | '{' :: rest =>
    let field := rest.takeWhile (· ≠ '}')
    let demand ← Demand.ofField? (← part? whole place field)
    match rest.drop field.length with
    | '}' :: ']' :: rest =>
      return ⟨target, if span = "" then demand else .span,
        ← levelBehind? whole (place + size field + 2) rest⟩
    | _ => none
  | _ => none

/-- The rule of a text. -/
def ofText? (s : String) : Option Rule :=
  match Text.trim s.toList with
  | [] => none
  | '[' :: rest => withBrackets? "" s.toList 1 rest
  | c :: cs =>
    if mayBegin c then
      let name := (c :: cs).takeWhile fun c => !(c = '=' || c = '[')
      match (c :: cs).drop name.length with
      | [] =>
        match Level.ofText? s with
        | some least => some ⟨"", .nothing, least⟩
        | none => some ⟨s, .nothing, some .trace⟩
      | sign :: rest => do
        let target ← part? s.toList 0 name
        if sign = '=' then
          return ⟨target, .nothing, ← levelFrom? s.toList (size name + 1)⟩
        else withBrackets? target s.toList (size name + 1) rest
    else none

/-- The rule is about the notice. -/
def covers (r : Rule) (n : Notice) : Bool :=
  r.target.toList.isPrefixOf n.target.toList && r.demand.isMet n

/-- Of two rules about a notice, the first one says more about it: more of the
    target, or as much of it and more besides. -/
def outranks (a b : Rule) : Bool :=
  b.target.length < a.target.length ||
    (a.target.length = b.target.length && a.demand.exceeds b.demand)

end Rule

/-! ### Filters -/

/-- Rules, of which the last ones count most. -/
structure Filter where
  rules : List Rule
deriving DecidableEq, Inhabited, Repr

namespace Filter

/-- The filter that shows the notices of a level and those that matter more. -/
def uniform (least : Level) : Filter :=
  ⟨[⟨"", .nothing, some least⟩]⟩

/-- The filter of a text. Nothing between two commas is no rule. -/
def ofText? (s : String) : Option Filter :=
  (((s.splitOn ",").filter (· ≠ "")).mapM Rule.ofText?).map fun rules => ⟨rules⟩

/-- The rule that decides of the one that did so far and another one. -/
def better (n : Notice) (best : Option Rule) (r : Rule) : Option Rule :=
  if r.covers n && !best.any (·.outranks r) then some r else best

/-- The rule that decides for a notice. -/
def ruleFor? (f : Filter) (n : Notice) : Option Rule :=
  f.rules.foldl (better n) none

/-- The filter shows the notice. -/
def shows (f : Filter) (n : Notice) : Bool :=
  match f.ruleFor? n with
  | some r => r.least.any fun least => n.level.rank ≤ least.rank
  | none => false

end Filter

end EventTables
