import EventTables.CommandLine.Arguments
import EventTables.CommandLine.Display
import EventTables.CommandLine.Failure
import EventTables.Log.Filter
import EventTables.Schema.Plan
import EventTables.Store.Address
import EventTables.Store.Effective
import EventTables.Validation

/-!
# Running an Invocation

What the program does when it is asked for an action.

The configuration is read and validated first, whatever the action is. An action
that needs a database connects to it next, under the address that was given or
else the configured one. So a configuration that is not valid never reaches a
database. Nothing is displayed by an action that fails.

The files, the environment and the databases that an invocation can see are
values here, and what an invocation does is a function of them.

## Main definitions

* `Surroundings`: What an invocation can see.
* `Outcome`: What comes of an invocation.
* `Invocation.run`: Carries out an invocation.
* `Invocation.variableNames`: Which variables of the environment matter.
* `Invocation.filter`: Which notices the invocation shows.
-/

namespace EventTables

namespace CommandLine

/-- What an invocation can see. -/
structure Surroundings (σ : Type) where
  /-- What is found under a path. -/
  file : String → FileContent
  environment : Environment
  /-- What happens when an address is called. -/
  reach : String → Reach
  database : Database σ

/-- What comes of an invocation. -/
structure Outcome (σ : Type) where
  /-- What is displayed. -/
  display : String
  failure? : Option Failure
  /-- What is reported on the way, in order. -/
  notices : List Notice
  /-- The state of the database afterwards. -/
  state : σ

namespace Outcome

variable {σ : Type}

/-- The invocation succeeded. -/
def succeeded (o : Outcome σ) : Bool :=
  o.failure?.isNone

/-- The status with which the program ends. -/
def status (o : Outcome σ) : UInt8 :=
  if o.succeeded then 0 else 1

/-- The outcome with something reported before. -/
def after (notices : List Notice) (o : Outcome σ) : Outcome σ :=
  { o with notices := notices ++ o.notices }

/-- The outcome of an action by its result. -/
def ofResult {α : Type} (display : α → String) (result : Except Error α) (notices : List Notice)
    (s : σ) : Outcome σ :=
  match result with
  | .ok a => ⟨display a, none, notices, s⟩
  | .error e => ⟨"", some (.acting e), notices, s⟩

end Outcome

variable {σ : Type}

/-- Connects to the database under an address. -/
def reachDatabase (reach : String → Reach) (address : String) : Except Failure Unit :=
  if address = "" then .error .noAddress
  else (connect reach address).mapError .connecting

/-- Creates the relations of the program and runs the statements of every
    integration's table. -/
def migrateInto (c : Config) (db : Database σ) (s : σ) : Outcome σ :=
  match db.createRelations s with
  | (.error e, s) => ⟨"", some (.acting e), [], s⟩
  | (.ok _, s) =>
    (Outcome.ofResult (fun _ => migratedText c) (c.migrate db.executor s).1
      (c.migrateNotices db.executor s) (c.migrate db.executor s).2).after [.schemaInitialized]

/-- Shows the effective sources. -/
def showSources (c : Config) (db : Database σ) (s : σ) : Outcome σ :=
  Outcome.ofResult sourcesText (c.allSources (db.store s)) (c.allSourcesNotices (db.store s))
    (db.sources s).2

/-- Shows the effective integrations under the names of their sources. -/
def showIntegrations (c : Config) (db : Database σ) (s : σ) : Outcome σ :=
  Outcome.ofResult groupsText (c.integrationsBySource (db.store s))
    (c.integrationsBySourceNotices (db.store s)) (db.integrations s).2

/-- Carries out an action on a valid configuration and, if the action needs
    one, a database that was reached. -/
def Action.perform (c : Config) (db : Database σ) (s : σ) : Action → Outcome σ
  | .validate => ⟨summary c, none, [], s⟩
  | .ddl => ⟨statementsText c.ddl, none, c.mergeNotices, s⟩
  | .migrate => (migrateInto c db s).after [.connected]
  | .sources => (showSources c db s).after [.connected]
  | .integrations => (showIntegrations c db s).after [.connected]

namespace Invocation

/-- The address of the database: the one given, or else the configured one. -/
def address (i : Invocation) (env : Environment) (c : Config) : String :=
  i.address?.getD (c.databaseUrl.resolve env)

/-- Carries out an invocation whose configuration is valid. -/
def runValid (i : Invocation) (w : Surroundings σ) (c : Config) (s : σ) : Outcome σ :=
  if i.action.needsDatabase then
    match reachDatabase w.reach (i.address w.environment c) with
    | .ok _ => i.action.perform c w.database s
    | .error f => ⟨"", some f, [], s⟩
  else i.action.perform c w.database s

/-- Carries out an invocation. -/
def run (i : Invocation) (w : Surroundings σ) (s : σ) : Outcome σ :=
  match Config.ofFile (w.file i.configPath) with
  | .error e => ⟨"", some (.loading i.configPath e), [], s⟩
  | .ok declared =>
    match declared.validate with
    | (_, .error e) => ⟨"", some (.validating e), declared.validateNotices, s⟩
    | (c, .ok _) => (i.runValid w c s).after declared.validateNotices

/-- The variables of the environment that matter to an invocation with the
    configuration that is found. -/
def variableNames (file : FileContent) : List String :=
  "RUST_LOG" :: Destination.hostVariables ++
    match Config.ofFile file with
    | .ok c => c.databaseUrl.variableName?.toList
    | .error _ => []

/-- Which notices the invocation shows: those of the filter in the environment,
    or by default those of a level. -/
def filter (i : Invocation) (env : Environment) : Filter :=
  ((env "RUST_LOG").bind Filter.ofText?).getD
    (.uniform (if i.verbose then .debug else .info))

end Invocation

end CommandLine

end EventTables
