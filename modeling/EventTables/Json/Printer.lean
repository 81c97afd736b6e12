import EventTables.Json.Quoted
import EventTables.Json.Value

/-!
# JSON Text

Writing values down.

`Value.compact` writes a value without any blanks. `Value.pretty` gives every
item and every member a line of its own, indented by two spaces a level; an
array or object without parts stays on one line. Both write the members of an
object in the order of the value.

## Main definitions

* `Value.compact`: The value without blanks.
* `Value.pretty`: The value over several lines.
-/

namespace EventTables

namespace Json

namespace Value

mutual

/-- The text of a value, without blanks. -/
def compact : Value → List Char
  | .null => ['n', 'u', 'l', 'l']
  | .boolean true => ['t', 'r', 'u', 'e']
  | .boolean false => ['f', 'a', 'l', 's', 'e']
  | .number n => n.digits
  | .string s => Quoted.encode s
  | .array [] => ['[', ']']
  | .array (v :: vs) => '[' :: compact v ++ compactItems vs
  | .object [] => ['{', '}']
  | .object ((k, v) :: ms) => '{' :: Quoted.encode k ++ ':' :: compact v ++ compactMembers ms

/-- The items after the first, each behind a comma, and the closing bracket. -/
def compactItems : List Value → List Char
  | [] => [']']
  | v :: vs => ',' :: compact v ++ compactItems vs

/-- The members after the first, each behind a comma, and the closing brace. -/
def compactMembers : List (String × Value) → List Char
  | [] => ['}']
  | (k, v) :: ms => ',' :: Quoted.encode k ++ ':' :: compact v ++ compactMembers ms

end

/-- A new line at the level. -/
def newLine (level : Nat) : List Char :=
  '\n' :: List.replicate (2 * level) ' '

mutual

/-- The text of a value over several lines, inside `level` open arrays and
    objects. -/
def prettyAt (level : Nat) : Value → List Char
  | .array [] => ['[', ']']
  | .array (v :: vs) =>
    '[' :: newLine (level + 1) ++ prettyAt (level + 1) v ++ prettyItems level vs
  | .object [] => ['{', '}']
  | .object ((k, v) :: ms) =>
    '{' :: newLine (level + 1) ++ Quoted.encode k ++ ':' :: ' ' :: prettyAt (level + 1) v ++
      prettyMembers level ms
  | .null => compact .null
  | .boolean b => compact (.boolean b)
  | .number n => compact (.number n)
  | .string s => compact (.string s)

/-- The items after the first, each on a line of its own, and the closing
    bracket. -/
def prettyItems (level : Nat) : List Value → List Char
  | [] => newLine level ++ [']']
  | v :: vs => ',' :: newLine (level + 1) ++ prettyAt (level + 1) v ++ prettyItems level vs

/-- The members after the first, each on a line of its own, and the closing
    brace. -/
def prettyMembers (level : Nat) : List (String × Value) → List Char
  | [] => newLine level ++ ['}']
  | (k, v) :: ms =>
    ',' :: newLine (level + 1) ++ Quoted.encode k ++ ':' :: ' ' :: prettyAt (level + 1) v ++
      prettyMembers level ms

end

/-- The text of a value, without blanks. -/
def text (v : Value) : String :=
  String.ofList v.compact

/-- The text of a value over several lines. -/
def pretty (v : Value) : String :=
  String.ofList (prettyAt 0 v)

end Value

end Json

end EventTables
