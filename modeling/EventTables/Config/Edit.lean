import EventTables.Derivation
import EventTables.Table.Union

/-!
# Edits

Changing a configuration one declaration at a time.

An edit of an integration says which one by its place in the list, counted from
zero. An edit of an integration that is not there changes nothing and is
reported as such.

## Main definitions

* `Edit`: One change.
* `Edit.apply`: The configuration after a change.
-/

namespace EventTables

/-- One change of a configuration. `i` is the place of an integration. -/
inductive Edit where
  /-- Declares a source at the end of the list. -/
  | declareSource (s : Source)
  /-- Declares an integration at the end of the list. -/
  | declareIntegration (ig : Integration)
  | removeIntegration (i : Nat)
  | rename (i : Nat) (name : String)
  | setEnabled (i : Nat) (enabled : Bool)
  /-- Adds a source to the integration. -/
  | addSource (i : Nat) (s : Source)
  | renameTable (i : Nat) (name : String)
  | addColumn (i : Nat) (c : Column)
  | addUnique (i : Nat) (group : List String)
  /-- Replaces the event. -/
  | setEvent (i : Nat) (e : Event)
  /-- Adds an input to the event. -/
  | addInput (i : Nat) (input : Input)
  | addBlockField (i : Nat) (b : BlockField)
  /-- Adds the fields that every row needs. -/
  | addRequired (i : Nat)
  /-- Adds the unique group that the columns suggest. -/
  | inferUnique (i : Nat)
  /-- Adds to the table the columns of another integration's table. -/
  | uniteTables (i j : Nat)

namespace Config

/-- The configuration with the integration at a place changed, if there is
    one. -/
def editAt (c : Config) (i : Nat) (f : Integration → Integration) : Option Config :=
  if i < c.integrations.length then
    some { c with integrations := c.integrations.modify i f }
  else none

end Config

namespace Edit

/-- The configuration after the change, if the integrations it speaks of are
    there. -/
def apply (c : Config) : Edit → Option Config
  | .declareSource s => some { c with sources := c.sources ++ [s] }
  | .declareIntegration ig => some { c with integrations := c.integrations ++ [ig] }
  | .removeIntegration i =>
    if i < c.integrations.length then
      some { c with integrations := c.integrations.eraseIdx i }
    else none
  | .rename i name => c.editAt i fun ig => { ig with name := name }
  | .setEnabled i enabled => c.editAt i fun ig => { ig with enabled := enabled }
  | .addSource i s => c.editAt i fun ig => { ig with sources := ig.sources ++ [s] }
  | .renameTable i name =>
    c.editAt i fun ig => { ig with table := { ig.table with name := name } }
  | .addColumn i column => c.editAt i fun ig => { ig with table := ig.table.addColumn column }
  | .addUnique i group => c.editAt i fun ig => { ig with table := ig.table.addUnique group }
  | .setEvent i e => c.editAt i fun ig => { ig with event := e }
  | .addInput i input => c.editAt i fun ig => { ig with event := ig.event.addInput input }
  | .addBlockField i b => c.editAt i fun ig => { ig with block := ig.block ++ [b] }
  | .addRequired i => c.editAt i Integration.addRequired
  | .inferUnique i => c.editAt i Integration.inferUnique
  | .uniteTables i j => do
    let other ← c.integrations[j]?
    c.editAt i fun ig => { ig with table := ig.table.union other.table }

end Edit

end EventTables
