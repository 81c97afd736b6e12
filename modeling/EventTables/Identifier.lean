import EventTables.Config.Basic
import EventTables.Error

/-!
# Identifiers

Which texts may become part of a statement.

Names and column types are spliced into SQL text without quotes, so they are
held to a small set of characters: ASCII letters, ASCII digits, the underscore,
and the brackets of array types. What has to name something must not be empty
either.

## Main definitions

* `isAllowed`: The character may stand in an identifier.
* `checkText`: All characters are allowed.
* `checkName`: All characters are allowed and there is one.
* `Config.checkNames`: Every text of a configuration that statements are made
  of.
-/

namespace EventTables

/-- The character may become part of a statement. -/
def isAllowed (c : Char) : Bool :=
  c.isAlphanum || c = '_' || c = '[' || c = ']'

/-- Refuses a text with a character that is not allowed, and names the first
    one. `field` says what the text is. -/
def checkText (field value : String) : Except Error Unit :=
  match value.toList.find? fun c => !isAllowed c with
  | some c => .error (.disallowed field value c)
  | none => .ok ()

/-- Refuses also the empty text. -/
def checkName (field value : String) : Except Error Unit :=
  if value = "" then .error (.empty field) else checkText field value

/-- Checks what a column is declared with. -/
def Column.checkNames (c : Column) : Except Error Unit := do
  checkName "column name" c.name
  checkName "column type" c.type

/-- Checks an integration's own name and its table. -/
def Integration.checkNames (ig : Integration) : Except Error Unit := do
  checkText "integration name" ig.name
  checkName "table name" ig.table.name
  ig.table.columns.forM Column.checkNames

/-- Checks all texts of a configuration that statements are made of, and the
    names of its sources. -/
def Config.checkNames (c : Config) : Except Error Unit := do
  c.integrations.forM Integration.checkNames
  c.sources.forM fun s => checkText "source name" s.name

end EventTables
