import EventTables.Json.Printer
import EventTables.Log.Notice

/-!
# Log Lines

Notices as lines of a log.

A line is either JSON, with the level, the target and all fields of the notice,
or the same for people to read. The message is a field like the others and comes
first.

## Main definitions

* `Notice.fieldsValue`: The fields of a notice, with its message.
* `Notice.value`: The notice as a JSON value.
* `Notice.line`: The notice as a line.
-/

namespace EventTables

/-- The value of a field as JSON. -/
def FieldValue.value : FieldValue → Json.Value
  | .text s => .string s
  | .count n => .number (.natural (UInt64.ofNat n))

/-- The value of a field for people to read. -/
def FieldValue.shown : FieldValue → String
  | .text s => s
  | .count n => toString n

namespace Notice

/-- The message and the fields of the notice. -/
def fieldsValue (n : Notice) : Json.Value :=
  .object (("message", .string n.message) :: n.fields.map fun f => (f.1, f.2.value))

/-- The notice as a JSON value. -/
def value (n : Notice) : Json.Value :=
  .object [("level", .string n.level.name), ("fields", n.fieldsValue),
    ("target", .string n.target)]

/-- The notice as a line, in JSON or for people to read. -/
def line (n : Notice) (json : Bool) : String :=
  if json then n.value.text
  else " ".intercalate ([n.level.name, n.target ++ ":", n.message] ++
    n.fields.map fun f => f.1 ++ "=" ++ f.2.shown)

end Notice

end EventTables
