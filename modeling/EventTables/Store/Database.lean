import EventTables.Config.Document
import EventTables.Schema.Migration
import EventTables.Store.Effective
import EventTables.Text.Digits

/-!
# Store in a Database

A store that keeps sources and integrations in two relations of a database.

What is sent to the database is a command: a text, and the values that go along
with it. A database is anything with a state that takes commands, accepting or
refusing each, and in whose every state the two relations have rows. Nothing
else is assumed of it, so what is shown here holds of one that keeps what it is
given and of one that does not.

A chain number may need all of 64 bits, which is more than the whole numbers of
the relation's language hold, so it travels as decimal text. A row that cannot
be understood spoils the whole reading: a list with a source missing would look
like a smaller store.

## Main definitions

* `Command`: What is sent, with `Command.sql` and `Command.parameters`.
* `SourceRow`, `IntegrationRow`: Rows as they are read, any cell of which may be
  null.
* `SourceRow.source`, `IntegrationRow.integration`: What the rows hold.
* `Database`: Something that takes commands.
* `Database.createRelations`: Creates the two relations.
* `Database.saveSource`, `Database.saveIntegration`: Keeping one more.
* `Database.sources`, `Database.integrations`: Reading all of them.
* `Database.executor`: Running the statements of a migration.
* `Database.recorded`: The same database with a record of what was sent.
-/

namespace EventTables

/-! ### Commands -/

/-- What is sent to a database. -/
inductive Command where
  /-- A statement that stands for itself. -/
  | statement (sql : String)
  /-- Keeps the row of a source, unless there is one of its name and chain. -/
  | insertSource (name chainId url : String)
  /-- Keeps the document of an integration, in place of the one of its name. -/
  | insertIntegration (name : String) (document : Json.Value)
  | selectSources
  | selectIntegrations
deriving Inhabited

namespace Command

/-- The text that is sent. A value that goes along is named by its place. -/
def sql : Command → String
  | .statement sql => sql
  | .insertSource .. =>
    "insert into chainshovel.sources (name, chain_id, url) values ($1, $2::numeric, $3)\n" ++
    "             on conflict (name, chain_id) do nothing"
  | .insertIntegration .. =>
    "insert into chainshovel.integrations (name, conf) values ($1, $2)\n" ++
    "             on conflict (name) do update set conf = excluded.conf"
  | .selectSources =>
    "select name, chain_id::text as chain_id, url from chainshovel.sources"
  | .selectIntegrations => "select name, conf from chainshovel.integrations"

/-- The values that go along with the text, as texts. -/
def parameters : Command → List String
  | .statement _ => []
  | .insertSource name chainId url => [name, chainId, url]
  | .insertIntegration name document => [name, document.text]
  | .selectSources => []
  | .selectIntegrations => []

/-- The command that keeps a source. -/
def ofSource (s : Source) : Command :=
  .insertSource s.name (String.ofList (Text.decimal s.chainId.toNat)) s.url.text

/-- The command that keeps an integration. -/
def ofIntegration (ig : Integration) : Command :=
  .insertIntegration ig.name ig.value

end Command

/-- The statements that create the two relations, unless they are there. -/
def relationStatements : List String :=
  ["create schema if not exists chainshovel",
   "create table if not exists chainshovel.sources (\n" ++
   "                name     text    not null,\n" ++
   "                chain_id numeric not null,\n" ++
   "                url      text    not null,\n" ++
   "                unique (name, chain_id)\n" ++
   "            )",
   "create table if not exists chainshovel.integrations (\n" ++
   "                name text  not null,\n" ++
   "                conf jsonb not null,\n" ++
   "                unique (name)\n" ++
   "            )"]

/-! ### Rows -/

/-- The row of a source as it is read. A cell that is null is `none`. -/
structure SourceRow where
  name : Option String
  chainId : Option String
  url : Option String
deriving DecidableEq, Inhabited, Repr

/-- The row of an integration as it is read. A cell that is null is `none`. -/
structure IntegrationRow where
  name : Option String
  document : Option Json.Value
deriving Inhabited

/-- The content of a cell, which must not be null. -/
def cellOf {α : Type} (operation column : String) : Option α → Except Error α
  | some a => .ok a
  | none =>
    .error (.storage operation ("error occurred while decoding column " ++
      Text.quoteText column ++ ": unexpected null; try decoding as an `Option`"))

/-- The chain number of the source of a name, from its text. -/
def chainIdOf (name text : String) : Except Error UInt64 :=
  match Text.readUInt64 text with
  | some n => .ok n
  | none =>
    .error (.storage "scanning source"
      ("source " ++ name ++ ": chain_id " ++ Text.quoteText text ++ " is not a u64"))

/-- The source that a row holds. Of several faults, the first in the order of
    the columns is reported. -/
def SourceRow.source (r : SourceRow) : Except Error Source := do
  let name ← cellOf "scanning source" "name" r.name
  let text ← cellOf "scanning source" "chain_id" r.chainId
  let chainId ← chainIdOf name text
  let url ← cellOf "scanning source" "url" r.url
  return Source.named name chainId ⟨url⟩

/-- The integration that a row holds. The name in the row is only used to say
    which one is at fault; the integration has the name in its document. -/
def IntegrationRow.integration (r : IntegrationRow) : Except Error Integration := do
  let name ← cellOf "scanning integration" "name" r.name
  let document ← cellOf "scanning integration" "conf" r.document
  Integration.ofValue ("integration " ++ name) document

/-! ### Databases -/

/-- Something with a state that takes commands. -/
structure Database (σ : Type) where
  /-- Takes a command: whether it was accepted, or else the message of the
      refusal, and the state after it. -/
  take : σ → Command → Except String Unit × σ
  /-- The rows of sources in a state, in the order in which they are read. -/
  sourceRows : σ → List SourceRow
  /-- The rows of integrations in a state, in the order in which they are
      read. -/
  integrationRows : σ → List IntegrationRow

/-- What a database says, as the reason of an error. -/
def databaseReason (message : String) : String :=
  "error returned from database: " ++ message

namespace Database

variable {σ : Type} (db : Database σ)

/-- Sends a command, and says what its refusal means. -/
def send (s : σ) (c : Command) (refusal : String → Error) : Except Error Unit × σ :=
  ((db.take s c).1.mapError fun message => refusal (databaseReason message), (db.take s c).2)

/-- The database as an executor of statements, with what a refusal means. -/
def statements (refusal : String → String → Error) : Executor σ where
  execute s stmt := db.send s (.statement stmt) (refusal stmt)

/-- The database as an executor of migrations. -/
def executor : Executor σ :=
  db.statements .executing

/-- Creates the two relations, unless they are there. -/
def createRelations (s : σ) : Except Error Unit × σ :=
  (db.statements fun _ => .storage "initializing schema").runAll s relationStatements

/-- Keeps a source, unless one of its name and chain is kept. Of the source,
    name, chain and address remain. -/
def saveSource (s : σ) (src : Source) : Except Error Unit × σ :=
  db.send s (.ofSource src) (.storage "saving source")

/-- Keeps an integration, in place of the one of its name. -/
def saveIntegration (s : σ) (ig : Integration) : Except Error Unit × σ :=
  db.send s (.ofIntegration ig) (.storage "saving integration")

/-- Reads all sources. -/
def sources (s : σ) : Except Error (List Source) × σ :=
  match db.send s .selectSources (.storage "querying sources") with
  | (.ok _, s) => ((db.sourceRows s).mapM SourceRow.source, s)
  | (.error e, s) => (.error e, s)

/-- Reads all integrations. -/
def integrations (s : σ) : Except Error (List Integration) × σ :=
  match db.send s .selectIntegrations (.storage "querying integrations") with
  | (.ok _, s) => ((db.integrationRows s).mapM IntegrationRow.integration, s)
  | (.error e, s) => (.error e, s)

/-- The database together with all commands that were sent to it, the latest
    last. -/
def recorded : Database (σ × List Command) where
  take s c := ((db.take s.1 c).1, ((db.take s.1 c).2, s.2 ++ [c]))
  sourceRows s := db.sourceRows s.1
  integrationRows s := db.integrationRows s.1

/-- What reading the database in a state gives. -/
def store (s : σ) : Store where
  sources := (db.sources s).1
  integrations := (db.integrations s).1

end Database

end EventTables
