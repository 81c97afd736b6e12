import EventTables.Table.Union
import EventTables.Text.Quoted

/-!
# Notices

What the program reports about its own progress.

A notice says that something has happened. The operations of this library
return the notices that they give rise to, in order, and leave it to the caller
which of them are shown and how.

## Main definitions

* `Level`: How much a notice matters.
* `Notice`: Something that has happened.
* `Notice.level`, `Notice.target`, `Notice.message`, `Notice.fields`: How it is
  shown.
-/

namespace EventTables

/-- How much a notice matters. -/
inductive Level where
  | error
  | warn
  | info
  | debug
  | trace
deriving DecidableEq, Inhabited, Repr

namespace Level

/-- The place of the level, from what matters most. -/
def rank : Level → Nat
  | .error => 1
  | .warn => 2
  | .info => 3
  | .debug => 4
  | .trace => 5

/-- The level's name. -/
def name : Level → String
  | .error => "ERROR"
  | .warn => "WARN"
  | .info => "INFO"
  | .debug => "DEBUG"
  | .trace => "TRACE"

end Level

/-- The value of a field of a notice. -/
inductive FieldValue where
  | text (s : String)
  | count (n : Nat)
deriving DecidableEq, Inhabited, Repr

/-- Something that has happened. -/
inductive Notice where
  /-- A column that every row needs was added to a table. -/
  | addingColumn (integration column type : String)
  /-- A table got the unique group that its columns suggest. -/
  | inferredUnique (table : String) (group : List String)
  | configValidated (integrations sources : Nat)
  /-- A column is declared with two types. -/
  | typeConflict (conflict : Conflict)
  | executing (table statement : String)
  | migrated (integration table : String)
  | mergedIntegrations (count : Nat)
  | mergedSources (count : Nat)
  | connected
  | schemaInitialized
deriving DecidableEq, Inhabited, Repr

namespace Notice

/-- How much the notice matters. -/
def level : Notice → Level
  | .addingColumn .. => .debug
  | .inferredUnique .. => .debug
  | .configValidated .. => .info
  | .typeConflict .. => .warn
  | .executing .. => .debug
  | .migrated .. => .info
  | .mergedIntegrations .. => .info
  | .mergedSources .. => .info
  | .connected => .info
  | .schemaInitialized => .debug

/-- The part of the program that the notice comes from, by which notices can be
    chosen. -/
def target : Notice → String
  | .addingColumn .. => "chainshovel_core::derive"
  | .inferredUnique .. => "chainshovel_core::derive"
  | .configValidated .. => "chainshovel_core::validate"
  | .typeConflict .. => "chainshovel_core::table"
  | .executing .. => "chainshovel_core::table"
  | .migrated .. => "chainshovel_core::plan"
  | .mergedIntegrations .. => "chainshovel_core::merge"
  | .mergedSources .. => "chainshovel_core::merge"
  | .connected => "chainshovel_storage::postgres"
  | .schemaInitialized => "chainshovel_storage::postgres"

/-- The notice in words. -/
def message : Notice → String
  | .addingColumn .. => "adding required column"
  | .inferredUnique .. => "inferred unique index"
  | .configValidated .. => "config validated"
  | .typeConflict .. => "column type conflict in table union"
  | .executing .. => "executing"
  | .migrated .. => "migrated"
  | .mergedIntegrations .. => "merged integrations"
  | .mergedSources .. => "merged sources"
  | .connected => "PostgresStore connected"
  | .schemaInitialized => "PostgresStore schema initialized"

/-- What the notice is about, by name. -/
def fields : Notice → List (String × FieldValue)
  | .addingColumn integration column type =>
    [("integration", .text integration), ("column", .text column), ("ty", .text type)]
  | .inferredUnique table group =>
    [("table", .text table), ("group", .text (Text.quoteTexts group))]
  | .configValidated integrations sources =>
    [("integrations", .count integrations), ("sources", .count sources)]
  | .typeConflict c =>
    [("table", .text c.table), ("column", .text c.column), ("kept", .text c.kept),
     ("dropped", .text c.dropped)]
  | .executing table statement => [("table", .text table), ("stmt", .text statement)]
  | .migrated integration table =>
    [("integration", .text integration), ("table", .text table)]
  | .mergedIntegrations count => [("integrations", .count count)]
  | .mergedSources count => [("sources", .count count)]
  | .connected => []
  | .schemaInitialized => []

end Notice

end EventTables
