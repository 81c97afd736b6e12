import EventTables.Json.Value

/-!
# Events

What an integration selects: inputs of an event, and fields of the block that
the event lies in.

An input is selected when it names a column to be written to; an empty name
counts as none. An indexed input is read from a topic of the log, any other
from its body. The decoder of events keeps more members in an event and its
inputs than this library looks at, so those are carried along untouched.

## Main definitions

* `Input`: An input of an event.
* `Input.target?`: The column that an input is written to.
* `Event`: An event with its inputs.
* `Event.selected`: The inputs that are written to a column.
* `Event.selectsUnindexed`: Some selected input is read from the log body.
* `BlockField`: A field of a block and the column it is written to.
-/

namespace EventTables

/-- One input of an event. -/
structure Input where
  name : String
  type : String
  /-- The input is read from a topic of the log, not from its body. -/
  indexed : Bool
  /-- The column that the input is written to, if it is given. -/
  column : Option String
  columnType : Option String
  /-- Other members, in key order. -/
  extra : Keyed String Json.Value
deriving Inhabited

namespace Input

/-- An input that is not selected. -/
def plain (name type : String) : Input := ⟨name, type, false, none, none, []⟩

/-- The column that the input is written to. An empty name is no column. -/
def target? (i : Input) : Option String :=
  i.column.filter (· ≠ "")

/-- The input is written to a column. -/
def isSelected (i : Input) : Bool :=
  i.target?.isSome

end Input

/-- An event with its inputs. -/
structure Event where
  name : String
  type : String
  anonymous : Bool
  inputs : List Input
  /-- Other members, in key order. -/
  extra : Keyed String Json.Value
deriving Inhabited

namespace Event

/-- The event of no name and no inputs. -/
def blank : Event := ⟨"", "", false, [], []⟩

/-- The event of that name without inputs. -/
def named (name : String) : Event := ⟨name, "event", false, [], []⟩

/-- The inputs that are written to a column, in their order. -/
def selected (e : Event) : List Input :=
  e.inputs.filter (·.isSelected)

/-- Some selected input is read from the log body. -/
def selectsUnindexed (e : Event) : Bool :=
  e.selected.any (!·.indexed)

/-- The event with one more input at the end. -/
def addInput (e : Event) (i : Input) : Event :=
  { e with inputs := e.inputs ++ [i] }

end Event

/-- A field of a block, such as its hash, and the column it is written to. -/
structure BlockField where
  name : String
  column : String
deriving DecidableEq, Inhabited, Repr

end EventTables
