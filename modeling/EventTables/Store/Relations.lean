import EventTables.Store.Database

/-!
# Relations

A database that keeps the two relations as the commands ask for.

A source that is inserted twice under one name and chain stays as it was first
inserted. An integration that is inserted twice under one name takes the later
document, in the place of the earlier one. Rows are read in the order in which
they were first inserted.

## Main definitions

* `Relations`: The rows of the two relations.
* `Relations.database`: The database that keeps them.
-/

namespace EventTables

/-- The rows of the two relations, none with a cell that is null. -/
structure Relations where
  /-- Names, chain numbers as texts, and addresses. -/
  sources : List (String × String × String)
  /-- Names and documents. -/
  integrations : List (String × Json.Value)
deriving Inhabited

namespace Relations

/-- Relations without rows. -/
def empty : Relations := ⟨[], []⟩

/-- The rows of sources with one more, unless its name and chain are there. -/
def insertSource (rows : List (String × String × String)) (name chainId url : String) :
    List (String × String × String) :=
  if rows.any fun row => row.1 = name && row.2.1 = chainId then rows
  else rows ++ [(name, chainId, url)]

/-- The rows of integrations with a document under a name, in place of the one
    that is there. -/
def insertIntegration (rows : List (String × Json.Value)) (name : String)
    (document : Json.Value) : List (String × Json.Value) :=
  if rows.any fun row => row.1 = name then
    rows.map fun row => if row.1 = name then (name, document) else row
  else rows ++ [(name, document)]

/-- The relations after a command. -/
def after (r : Relations) : Command → Relations
  | .insertSource name chainId url =>
    { r with sources := insertSource r.sources name chainId url }
  | .insertIntegration name document =>
    { r with integrations := insertIntegration r.integrations name document }
  | _ => r

/-- The database that keeps the relations and accepts every command. -/
def database : Database Relations where
  take r c := (.ok (), r.after c)
  sourceRows r := r.sources.map fun row => ⟨some row.1, some row.2.1, some row.2.2⟩
  integrationRows r := r.integrations.map fun row => ⟨some row.1, some row.2⟩

end Relations

end EventTables
