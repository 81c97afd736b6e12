import EventTables.Config.Basic
import EventTables.Error
import EventTables.Log.Notice
import EventTables.Schema.Statement

/-!
# Migrations

Running the statements of every integration's own table.

Tables are not put together here. Each integration's table is run in the order
of declaration, and where several integrations declare parts of one table, the
statements are such that each adds its part. The first statement that fails
ends the migration, and the error names the integration whose table it is from.

What runs the statements is an executor: anything with a state that takes a
statement and either accepts or refuses it.

## Main definitions

* `Executor`: Something that runs statements one at a time.
* `Executor.runAll`: Runs statements up to the first that fails.
* `Table.migrate`: Runs the statements of a table.
* `Config.migrate`: Runs the statements of every integration's table.
-/

namespace EventTables

/-- Something that runs statements one at a time and has a state. -/
structure Executor (σ : Type) where
  /-- Runs one statement: whether it was accepted, and the state after it. -/
  execute : σ → String → Except Error Unit × σ

/-- Runs statements in order, up to the first that fails. -/
def Executor.runAll {σ : Type} (e : Executor σ) : σ → List String → Except Error Unit × σ
  | s, [] => (.ok (), s)
  | s, stmt :: rest =>
    match e.execute s stmt with
    | (.ok _, s) => runAll e s rest
    | (.error err, s) => (.error err, s)

/-- The statements that are run, up to and with the first that fails. -/
def Executor.attempted {σ : Type} (e : Executor σ) : σ → List String → List String
  | _, [] => []
  | s, stmt :: rest =>
    match e.execute s stmt with
    | (.ok _, s) => stmt :: attempted e s rest
    | (.error _, _) => [stmt]

namespace Table

variable {σ : Type}

/-- Runs the statements of the table. -/
def migrate (t : Table) (e : Executor σ) (s : σ) : Except Error Unit × σ :=
  e.runAll s t.ddl

/-- What is reported while the statements are run. -/
def migrateNotices (t : Table) (e : Executor σ) (s : σ) : List Notice :=
  (e.attempted s t.ddl).map (.executing t.name)

end Table

/-- Runs the statements of each integration's table in order, up to the first
    that fails. -/
def migrateAll {σ : Type} (e : Executor σ) : σ → List Integration → Except Error Unit × σ
  | s, [] => (.ok (), s)
  | s, ig :: rest =>
    match ig.table.migrate e s with
    | (.ok _, s) => migrateAll e s rest
    | (.error err, s) => (.error (.migrating ig.name err), s)

/-- What is reported on the way. -/
def migrateAllNotices {σ : Type} (e : Executor σ) : σ → List Integration → List Notice
  | _, [] => []
  | s, ig :: rest =>
    ig.table.migrateNotices e s ++
      match ig.table.migrate e s with
      | (.ok _, s) => .migrated ig.name ig.table.name :: migrateAllNotices e s rest
      | (.error _, _) => []

namespace Config

variable {σ : Type}

/-- Migrates every integration's own table. -/
def migrate (c : Config) (e : Executor σ) (s : σ) : Except Error Unit × σ :=
  migrateAll e s c.integrations

/-- What is reported on the way. -/
def migrateNotices (c : Config) (e : Executor σ) (s : σ) : List Notice :=
  migrateAllNotices e s c.integrations

end Config

/-! ### An executor that records -/

/-- The characters occur side by side in the text. -/
def occursIn (part : List Char) : List Char → Bool
  | [] => part.isEmpty
  | c :: cs => part.isPrefixOf (c :: cs) || occursIn part cs

/-- Records every statement it is given, the latest last, and refuses those
    that contain a certain text, if one is given. -/
def Executor.recorder (refused : Option String) (reason : String) : Executor (List String) where
  execute log stmt :=
    let log := log ++ [stmt]
    match refused with
    | some part =>
      if occursIn part.toList stmt.toList then (.error (.executing stmt reason), log)
      else (.ok (), log)
    | none => (.ok (), log)

end EventTables
