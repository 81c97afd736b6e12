import EventTables.Json.Error

/-!
# Errors

What can go wrong between reading a configuration and migrating its tables.

An error names its cause; the words for it are in `Error.message` alone. Two
kinds of error wrap another one: the failure of one integration among many, and
the failure of its migration.

## Main definitions

* `NameKind`: The lists in which names must not repeat.
* `Error`: What went wrong.
* `Error.message`: The error in words.
* `Error.chain`: The error and its causes in words.
* `Error.isValidation`, `Error.isStorage`: Whose fault an error is.
-/

namespace EventTables

/-- A list of an integration in which no name may be repeated. -/
inductive NameKind where
  | column
  | input
  | blockField
deriving DecidableEq, Inhabited, Repr

/-- What one name of the list stands for. -/
def NameKind.word : NameKind → String
  | .column => "column"
  | .input => "input"
  | .blockField => "block data field"

/-- What went wrong. -/
inductive Error where
  /-- A text that would become part of a statement has a character that may not
      stand there. -/
  | disallowed (field value : String) (char : Char)
  /-- A text that has to name something is empty. -/
  | empty (field : String)
  /-- A name is repeated. -/
  | duplicate (kind : NameKind) (name : String)
  /-- A selected input or a block field has no column. -/
  | missingColumn (field : String)
  /-- An integration has no source of the name. -/
  | missingSource (name : String)
  /-- The integration of the name is at fault. -/
  | inIntegration (name : String) (cause : Error)
  /-- The store failed. -/
  | storage (operation reason : String)
  /-- A document could not be read. -/
  | decoding (context : String) (cause : Json.Error)
  /-- The migration of the integration of the name failed. -/
  | migrating (integration : String) (cause : Error)
  /-- A statement was refused. -/
  | executing (statement reason : String)
  /-- A file could not be read. -/
  | file (reason : String)
deriving Inhabited

namespace Error

/-- The error in words. -/
def message : Error → String
  | .disallowed field value char =>
    "unsafe " ++ field ++ " " ++ Text.quoteText value ++ ": disallowed character " ++
      Text.quoteChar char
  | .empty field => "empty " ++ field
  | .duplicate kind name => "duplicate " ++ kind.word ++ ": " ++ name
  | .missingColumn field => "missing column for " ++ field
  | .missingSource name => "missing source config for: " ++ name
  | .inIntegration name cause => "integration '" ++ name ++ "': " ++ cause.message
  | .storage operation reason => "storage error (" ++ operation ++ "): " ++ reason
  | .decoding context cause => "decoding " ++ context ++ ": " ++ cause.message
  | .migrating integration cause =>
    "migrating integration: " ++ integration ++ ": " ++ cause.message
  | .executing statement reason => "executing " ++ Text.quoteText statement ++ ": " ++ reason
  | .file reason => "IO error: " ++ reason

/-- The error in words, then what caused it, and so on to the first cause. -/
def chain : Error → List String
  | e@(.inIntegration _ cause) => e.message :: cause.chain
  | e@(.migrating _ cause) => e.message :: cause.chain
  | e@(.decoding _ cause) => [e.message, cause.message]
  | e@(.file reason) => [e.message, reason]
  | e => [e.message]

/-- The configuration itself is at fault. -/
def isValidation : Error → Bool
  | .disallowed _ _ _ => true
  | .empty _ => true
  | .duplicate _ _ => true
  | .missingColumn _ => true
  | .missingSource _ => true
  | .inIntegration _ cause => cause.isValidation
  | _ => false

/-- What is stored, or the store, is at fault. -/
def isStorage : Error → Bool
  | .storage _ _ => true
  | .decoding _ _ => true
  | _ => false

end Error

end EventTables
