import EventTables.Derivation
import EventTables.Identifier

/-!
# Validation

Whether a configuration can be carried out, after what it leaves out has been
filled in.

First every text that becomes part of a statement is checked. Then each
integration in its turn gets its derived fields and has its references checked:
names must not repeat within a list, and what is selected must have a column.
The first failure ends the pass. What was derived up to then stays derived, so
a pass has two results: the configuration it leaves and its outcome.

## Main definitions

* `firstRepeat?`: The first name that repeats an earlier one.
* `Integration.requireSource`: The source of a name, which has to be there.
* `Integration.checkReferences`: Names are unique and columns exist.
* `validateAll`: One integration after the other.
* `Config.validate`: The whole pass: the configuration left, and the outcome.
* `Config.validateNotices`: What the pass reports.
-/

namespace EventTables

/-- The first name that is among `seen` or repeats an earlier one. -/
def repeatAfter? (seen : List String) : List String → Option String
  | [] => none
  | n :: ns => if n ∈ seen then some n else repeatAfter? (n :: seen) ns

/-- The first name that repeats an earlier one. -/
def firstRepeat? (names : List String) : Option String :=
  repeatAfter? [] names

/-- Refuses a list in which a name is repeated. -/
def checkUnique (kind : NameKind) (names : List String) : Except Error Unit :=
  match firstRepeat? names with
  | some n => .error (.duplicate kind n)
  | none => .ok ()

namespace Integration

/-- The first of the integration's sources that has the name, which has to be
    there. -/
def requireSource (ig : Integration) (name : String) : Except Error Source :=
  match ig.source? name with
  | some s => .ok s
  | none => .error (.missingSource name)

/-- Refuses a selected input whose column the table does not have. -/
def checkInput (ig : Integration) (i : Input) : Except Error Unit :=
  if i.target?.any ig.table.hasColumn then .ok () else .error (.missingColumn i.name)

/-- Refuses a block field whose column the table does not have. -/
def checkBlockField (ig : Integration) (b : BlockField) : Except Error Unit :=
  if b.column ≠ "" ∧ ig.table.hasColumn b.column then .ok ()
  else .error (.missingColumn ("block." ++ b.name))

/-- Checks that no name is repeated within the columns, the inputs and the
    block fields, and that every selected input and every block field has its
    column. -/
def checkReferences (ig : Integration) : Except Error Unit := do
  checkUnique .column ig.table.columnNames
  checkUnique .input (ig.event.inputs.map (·.name))
  checkUnique .blockField (ig.block.map (·.name))
  ig.event.selected.forM ig.checkInput
  ig.block.forM ig.checkBlockField

end Integration

/-- Derives and checks one integration after the other, up to the first that
    fails. Later ones are left as they are. -/
def validateAll : List Integration → List Integration × Except Error Unit
  | [] => ([], .ok ())
  | ig :: rest =>
    match ig.derive.checkReferences with
    | .ok _ =>
      let (rest, outcome) := validateAll rest
      (ig.derive :: rest, outcome)
    | .error e => (ig.derive :: rest, .error (.inIntegration ig.name e))

/-- What is reported on the way. -/
def validateAllNotices : List Integration → List Notice
  | [] => []
  | ig :: rest =>
    match ig.derive.checkReferences with
    | .ok _ => ig.deriveNotices ++ validateAllNotices rest
    | .error _ => ig.deriveNotices

namespace Config

/-- Checks a configuration and fills in what is derived: the configuration that
    the pass leaves, and its outcome. -/
def validate (c : Config) : Config × Except Error Unit :=
  match c.checkNames with
  | .error e => (c, .error e)
  | .ok _ =>
    let (integrations, outcome) := validateAll c.integrations
    ({ c with integrations := integrations }, outcome)

/-- What the pass reports. -/
def validateNotices (c : Config) : List Notice :=
  match c.checkNames with
  | .error _ => []
  | .ok _ =>
    validateAllNotices c.integrations ++
      match (validateAll c.integrations).2 with
      | .ok _ => [.configValidated c.integrations.length c.sources.length]
      | .error _ => []

end Config

end EventTables
