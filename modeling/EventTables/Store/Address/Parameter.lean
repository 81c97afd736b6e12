import EventTables.Store.Address.Destination
import EventTables.Text.Quoted
import EventTables.Text.Utf8

/-!
# Parameters of an Address

What an address says about a connection behind a question mark.

Parameters are written with ampersands between them, each a name and a value
with an equals sign between. A plus sign stands for a space, and bytes may be
escaped. Some values have a form that is checked; parameters that nobody knows
are ignored.

## Main definitions

* `Parameter.ofQuery`: The parameters of a text.
* `ParameterFault`: What is wrong with the value of a parameter.
* `Parameter.check`: The value has the form that the parameter asks for.
* `Parameter.destination?`: Where calls go if the parameter names a host.
-/

namespace EventTables

/-- What is wrong with the value of a parameter. -/
inductive ParameterFault where
  /-- There is no such way to encrypt. -/
  | unknownEncryption (value : String)
  | number (fault : Text.NumberFault)
  /-- The text is not the number of a host. -/
  | hostNumber
deriving DecidableEq, Inhabited, Repr

/-- The fault in words. -/
def ParameterFault.message : ParameterFault → String
  | .unknownEncryption value =>
    "error with configuration: unknown value " ++ Text.quoteText value ++ " for `ssl_mode`"
  | .number fault => fault.message
  | .hostNumber => "invalid IP address syntax"

/-- A name and a value. -/
structure Parameter where
  name : String
  value : String
deriving DecidableEq, Inhabited, Repr

namespace Parameter

/-- The text that is written as a name or a value. -/
def decoded (cs : List Char) : String :=
  let spaced := cs.map fun c => if c = '+' then ' ' else c
  String.ofList (Text.Utf8.repaired (Text.percentDecode (Text.bytesOf spaced)))

/-- The parameter of a text between ampersands. -/
def ofPiece (cs : List Char) : Parameter :=
  ⟨decoded (cs.takeWhile (· ≠ '=')), decoded ((cs.dropWhile (· ≠ '=')).drop 1)⟩

/-- The parameters of a text. -/
def ofQuery (cs : List Char) : List Parameter :=
  (((String.ofList cs).splitOn "&").filter (· ≠ "")).map fun piece => ofPiece piece.toList

/-- The ways to encrypt a connection. -/
def encryptions : List String :=
  ["disable", "allow", "prefer", "require", "verify-ca", "verify-full"]

/-- Checks that the value has the form that the parameter asks for. -/
def check (p : Parameter) : Except ParameterFault Unit :=
  if p.name = "sslmode" ∨ p.name = "ssl-mode" then
    if encryptions.contains p.value.toLower then .ok () else .error (.unknownEncryption p.value)
  else if p.name = "statement-cache-capacity" then
    (Text.checkNumber UInt64.size p.value).mapError .number
  else if p.name = "port" then (Text.checkNumber UInt16.size p.value).mapError .number
  else if p.name = "hostaddr" then
    if Host.isShortNumber p.value.toList || Host.isLongNumber p.value.toList then .ok ()
    else .error .hostNumber
  else .ok ()

/-- Where calls go if the parameter names a host. -/
def destination? (p : Parameter) : Option Destination :=
  if p.name = "host" ∨ p.name = "hostaddr" then some (.ofNamed p.value) else none

end Parameter

end EventTables
