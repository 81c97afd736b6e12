import EventTables.Config.Format
import EventTables.Error
import EventTables.Json.Printer

/-!
# Reading Documents

Configurations from text and files, and integrations from stored bytes.

A configuration file has to be UTF-8 throughout. A stored integration need not
be: its bytes matter only where they are kept.

## Main definitions

* `Config.ofText`: The configuration that a text declares.
* `FileContent`: What is found where a file should be.
* `Config.ofFile`: The configuration that a file declares.
* `Integration.ofBytes`, `Integration.ofValue`: A stored integration.
* `Integration.bytes`, `Integration.value`: An integration as it is stored.
-/

namespace EventTables

/-- The configuration that the text declares. -/
def Config.ofText (s : String) : Except Error Config :=
  (Format.config.ofText s).mapError (.decoding "config")

/-- What is found where a file should be. -/
inductive FileContent where
  | bytes (content : List UInt8)
  | missing
  | directory
  /-- Part of the path is a file where a directory should be. -/
  | notDirectory
  /-- Reading fails for some other reason. -/
  | unreadable (reason : String)
deriving Inhabited

/-- The text of a file. -/
def FileContent.text : FileContent → Except Error String
  | .bytes content =>
    match Glyph.text? (Glyph.ofBytes content) with
    | some s => .ok s
    | none => .error (.file "stream did not contain valid UTF-8")
  | .missing => .error (.file "No such file or directory (os error 2)")
  | .directory => .error (.file "Is a directory (os error 21)")
  | .notDirectory => .error (.file "Not a directory (os error 20)")
  | .unreadable reason => .error (.file reason)

/-- The configuration that a file declares. -/
def Config.ofFile (file : FileContent) : Except Error Config := do
  Config.ofText (← file.text)

namespace Integration

/-- The document of the integration, as bytes. -/
def bytes (ig : Integration) : List UInt8 :=
  Text.bytes (Format.integration.encode ig).text

/-- Reads the integration whose document the bytes are. -/
def ofBytes (context : String) (content : List UInt8) : Except Error Integration :=
  (Format.integration.ofBytes content).mapError (.decoding context)

/-- The document of the integration, as a value whose members are in key
    order. -/
def value (ig : Integration) : Json.Value :=
  (Format.integration.encode ig).sorted

/-- Reads the integration whose document the value is. -/
def ofValue (context : String) (v : Json.Value) : Except Error Integration :=
  (Format.integration.ofValue v).mapError (.decoding context)

end Integration

end EventTables
