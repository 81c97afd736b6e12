import EventTables.Config.Format
import EventTables.Json.Printer

/-!
# Displays

What the program writes for people and for pipes.

Everything that is displayed ends with a line end. Statements are displayed so
that they can be run as they stand, and sources as JSON.

## Main definitions

* `lines`: Lines as one text.
* `versionText`: The program's name and version.
* `Config.summary`: A configuration that was found to be valid.
* `statementsText`: Statements.
* `migratedText`: The end of a migration.
* `sourcesText`: Sources.
* `groupsText`: Integrations under the names of their sources.
-/

namespace EventTables

namespace CommandLine

/-- Lines as one text. -/
def lines (ls : List String) : String :=
  String.join (ls.map (· ++ "\n"))

/-- The program's name and version. -/
def versionText : String :=
  lines ["chainshovel 0.1.0"]

/-- An integration's name and its table's. -/
def arrow (ig : Integration) : String :=
  ig.name ++ " → " ++ ig.table.name

/-- What is displayed of an integration. -/
def integrationLines (ig : Integration) : List String :=
  ["    - " ++ arrow ig ++ (if ig.enabled then "" else " [disabled]"),
   "      selected inputs: " ++ toString ig.event.selected.length] ++
  ig.table.columns.map (fun c => "      " ++ c.name ++ " " ++ c.type) ++
  ig.table.unique.map (fun group => "      unique (" ++ ", ".intercalate group ++ ")")

/-- A configuration that was found to be valid. -/
def summary (c : Config) : String :=
  lines (["✓ Config valid",
    "  Sources:      " ++ toString c.sources.length,
    "  Integrations: " ++ toString c.integrations.length] ++
    c.integrations.flatMap integrationLines)

/-- Statements, each ended by a semicolon. -/
def statementsText (stmts : List String) : String :=
  lines (stmts.map (· ++ ";"))

/-- The end of a migration. -/
def migratedText (c : Config) : String :=
  lines ["✓ migrated " ++ toString c.integrations.length ++ " integrations"]

/-- Sources as JSON. -/
def sourcesText (sources : List Source) : String :=
  lines [(Json.Value.array (sources.map Format.source.encode)).pretty]

/-- Integrations under the names of their sources. -/
def groupsText (groups : Keyed String (List Integration)) : String :=
  lines (groups.flatMap fun group =>
    (group.1 ++ ":") :: group.2.map fun ig =>
      "  - " ++ arrow ig ++ (if ig.enabled then " (enabled)" else " (disabled)"))

end CommandLine

end EventTables
