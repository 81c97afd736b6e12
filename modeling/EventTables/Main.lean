import EventTables.CommandLine.Run
import EventTables.Log.Line

/-!
# The Program

Reads the configuration and the environment, and writes what an invocation
comes to.

What is displayed goes to the standard output; the log and a failure go to the
standard error. The status is 0 for success, 1 for a failure and 2 for arguments
that cannot be understood. This program has no way into a network, so every
address that is well formed cannot be reached from it.

## Main definitions

* `main`: The program.
-/

namespace EventTables

namespace CommandLine

/-- What is found under a path. -/
def readContent (path : String) : IO FileContent := do
  try
    return .bytes (← IO.FS.readBinFile path).toList
  catch e =>
    match e with
    | .noFileOrDirectory .. => return .missing
    | .inappropriateType _ code _ =>
      -- Systems number this cause upwards from zero or downwards.
      return if code = 21 || code = 0 - 21 then .directory else .notDirectory
    | .permissionDenied .. => return .unreadable "Permission denied (os error 13)"
    | e => return .unreadable (toString e)

/-- The variables of some names that are set. -/
def readEnvironment (names : List String) : IO Environment := do
  let entries ← names.mapM fun name => do
    if '\x00' ∈ name.toList then return (name, none) else return (name, ← IO.getEnv name)
  return fun name => (entries.find? (·.1 == name)).bind (·.2)

/-- A database that nothing reaches. -/
def nowhere : Database Unit where
  take _ _ := (.ok (), ())
  sourceRows _ := []
  integrationRows _ := []

/-- What the program displays about itself. -/
def usage : String :=
  lines ["Usage: chainshovel [OPTIONS] <COMMAND>", "",
    "Commands:",
    "  validate      Validate the config and show the derived tables",
    "  ddl           Print the DDL for every table in the config",
    "  migrate       Apply each integration's table DDL to the database",
    "  sources       Print declared and persisted sources merged by chain id",
    "  integrations  Print declared and persisted integrations grouped by source", "",
    "Options:",
    "  -c, --config <CONFIG>  Path to the JSON config file [default: ./chainshovel.json]",
    "  -v, --verbose          Enable debug logging",
    "      --json-logs        Emit logs as JSON",
    "      --pg-url <PG_URL>  Postgres URL (default: pg_url from the config)",
    "  -h, --help             Print help",
    "  -V, --version          Print version"]

/-- Carries out an invocation and writes what comes of it. -/
def Invocation.execute (i : Invocation) : IO UInt32 := do
  let file ← readContent i.configPath
  let environment ← readEnvironment (variableNames file)
  let outcome := i.run ⟨fun _ => file, environment, .offline environment, nowhere⟩ ()
  for n in outcome.notices.filter (i.filter environment).shows do
    IO.eprintln (n.line i.jsonLogs)
  IO.print outcome.display
  if let some f := outcome.failure? then IO.eprint f.text
  return outcome.status.toUInt32

end CommandLine

end EventTables

/-- The program. -/
def main (args : List String) : IO UInt32 := do
  match EventTables.CommandLine.Request.ofArguments args with
  | some (.run i) => i.execute
  | some .help => IO.print EventTables.CommandLine.usage; return 0
  | some .version => IO.print EventTables.CommandLine.versionText; return 0
  | none => IO.eprint EventTables.CommandLine.usage; return 2
