import EventTables.Config.Event
import EventTables.Table.Basic

/-!
# Configurations

The document that declares which events of which chains go into which tables.

Some of its texts may stand for an environment variable. Such a setting, `$PG_URL`
for one, names the variable by a dollar sign and its name. It is kept as it is
written; the variable is only looked up when the setting is resolved. A name that
is not set resolves to the setting itself, and so does a dollar sign alone. The
value found is taken as it is, even where it begins with a dollar sign.

## Main definitions

* `Setting`: A text that may name a variable.
* `Environment`: The variables that are set.
* `Setting.resolve`: The text that the setting stands for.
* `Source`: A named chain feed.
* `Source.named`: A source known by name, chain and address alone.
* `Integration`: A mapping from an event and its block to a table.
* `Integration.withTable`: An enabled integration that only has a table.
* `Integration.source?`: The source of a name.
* `Config`: Sources, integrations and the settings around them.
* `Config.empty`: The configuration that declares nothing.
* `BEq` instances: Equality of configurations and their parts.
-/

namespace EventTables

/-! ### Settings -/

/-- A text that may name an environment variable. -/
structure Setting where
  /-- The setting as it is written. -/
  text : String
deriving DecidableEq, Inhabited, Repr

/-- The variables that are set, by their names. A variable whose value is not
    text counts as unset. -/
abbrev Environment := String → Option String

namespace Setting

/-- The name of the variable that a setting stands for. -/
def variableName? (s : Setting) : Option String :=
  match s.text.toList with
  | '$' :: c :: rest => some (String.ofList (c :: rest))
  | _ => none

/-- The text that the setting stands for. -/
def resolve (env : Environment) (s : Setting) : String :=
  match s.variableName? with
  | some name => (env name).getD s.text
  | none => s.text

end Setting

/-! ### Sources -/

/-- A named chain feed. -/
structure Source where
  name : String
  /-- The number by which the chain is known. -/
  chainId : UInt64
  /-- Where the chain is read. -/
  url : Setting
  /-- The first block to read. -/
  start : UInt64
  /-- The block to stop at. -/
  stop : UInt64
  /-- How many requests may be under way at once. -/
  concurrency : UInt32
  /-- How many blocks one request covers. -/
  batchSize : UInt32
deriving DecidableEq, Inhabited, Repr

/-- A source of which only name, chain and address are known. -/
def Source.named (name : String) (chainId : UInt64) (url : Setting) : Source :=
  ⟨name, chainId, url, 0, 0, 0, 0⟩

/-! ### Integrations and configurations -/

/-- The compiled form of an integration. What it holds is for others to read. -/
structure Compiled where
  name : String
  config : Json.Value
deriving Inhabited

/-- A named mapping from an event and its block to a table. -/
structure Integration where
  name : String
  enabled : Bool
  sources : List Source
  table : Table
  compiled : Compiled
  block : List BlockField
  event : Event
deriving Inhabited

namespace Integration

/-- The integration of that name that is not enabled and declares nothing. -/
def blank (name : String) : Integration :=
  ⟨name, false, [], Table.empty "", ⟨"", .null⟩, [], Event.blank⟩

/-- An enabled integration of which only the table is given. -/
def withTable (name : String) (table : Table) : Integration :=
  { blank name with enabled := true, table := table }

/-- The first of the integration's sources that has the name. -/
def source? (ig : Integration) (name : String) : Option Source :=
  ig.sources.find? (·.name == name)

end Integration

/-- The settings of the dashboard. -/
structure Dashboard where
  enableLoopbackAuthn : Bool
  disableAuthn : Bool
  rootPassword : Setting
deriving DecidableEq, Inhabited, Repr

/-- A configuration. -/
structure Config where
  dashboard : Dashboard
  /-- The address of the database. -/
  databaseUrl : Setting
  sources : List Source
  integrations : List Integration
deriving Inhabited

/-- The configuration that declares nothing. -/
def Config.empty : Config :=
  ⟨⟨false, false, ⟨""⟩⟩, ⟨""⟩, [], []⟩

/-! ### Equality

Two configurations are compared part by part. Values that this library does not
look into are compared as JSON values. -/

/-- Equality of members that are carried along. -/
def sameExtra (a b : Keyed String Json.Value) : Bool :=
  Json.Value.sameMembers a b

instance : BEq Input where
  beq a b := a.name == b.name && a.type == b.type && a.indexed == b.indexed &&
    a.column == b.column && a.columnType == b.columnType && sameExtra a.extra b.extra

instance : BEq Event where
  beq a b := a.name == b.name && a.type == b.type && a.anonymous == b.anonymous &&
    a.inputs == b.inputs && sameExtra a.extra b.extra

instance : BEq Compiled where
  beq a b := a.name == b.name && a.config == b.config

instance : BEq Integration where
  beq a b := a.name == b.name && a.enabled == b.enabled && a.sources == b.sources &&
    a.table == b.table && a.compiled == b.compiled && a.block == b.block && a.event == b.event

instance : BEq Config where
  beq a b := a.dashboard == b.dashboard && a.databaseUrl == b.databaseUrl &&
    a.sources == b.sources && a.integrations == b.integrations

end EventTables
