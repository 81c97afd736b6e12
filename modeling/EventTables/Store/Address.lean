import EventTables.Store.Address.Authority
import EventTables.Store.Address.Destination
import EventTables.Store.Address.Parameter
import EventTables.Store.Database

/-!
# Database Addresses

Whether a text can be the address of a database, and whether a database answers
there.

An address is a scheme and an authority, behind which come a path and, behind a
question mark, parameters. A fragment behind a hash sign is ignored. The form of
the host and the port is checked before anything else, and then whether the
credentials and the parameters can be understood. What the credentials are is for
the server to say.

## Main definitions

* `AddressFault`: What is wrong with an address.
* `checkAddress`: The address has the right form.
* `destination`: Where the calls of an address go.
* `Reach`: What happens when an address is called.
* `Reach.offline`: What happens on a machine without a network.
* `connect`: Calling an address.
-/

namespace EventTables

/-- What is wrong with an address. -/
inductive AddressFault where
  /-- The text does not begin with a scheme. -/
  | noScheme
  | noHost
  | badHost
  /-- The text cannot be the name of a host in the Internet. -/
  | badName
  /-- The host ends like a number and is none. -/
  | badShortNumber
  /-- The text between brackets is not the number of a host. -/
  | badLongNumber
  | badPort
  /-- A part of the address does not stand for a text. -/
  | notText (fault : Text.Utf8.Fault)
  | parameter (fault : ParameterFault)
deriving DecidableEq, Inhabited, Repr

/-- The fault in words. -/
def AddressFault.message : AddressFault → String
  | .noScheme => "relative URL without a base"
  | .noHost => "empty host"
  | .badHost => "invalid domain character"
  | .badName => "invalid international domain name"
  | .badShortNumber => "invalid IPv4 address"
  | .badLongNumber => "invalid IPv6 address"
  | .badPort => "invalid port number"
  | .notText fault => fault.message
  | .parameter fault => fault.message

namespace Address

/-- Checks the name of a host in the Internet, or its number. All of its characters may
    be left out in its spelling. -/
def checkInternetHost (host : List Char) : Except AddressFault Unit :=
  match Host.internetName? host with
  | none => .error .badName
  | some [] => .error .noHost
  | some cs =>
    if Host.endsAsNumber cs && !Host.isInternetNumber cs then .error .badShortNumber else .ok ()

/-- Checks a host that was given. -/
def checkHost (k : SchemeKind) (host : List Char) : Except AddressFault Unit :=
  match host with
  | '[' :: rest =>
    if rest.getLast? = some ']' && Host.isLongNumber rest.dropLast then .ok ()
    else .error .badLongNumber
  | _ =>
    if k = .common then if Host.isName host then .ok () else .error .badHost
    else checkInternetHost host

/-- Checks what follows a host: a port is a number of 16 bits, and may be left
    out behind its colon. A backslash ends it. -/
def checkPort : List Char → Except AddressFault Unit
  | ':' :: rest =>
    let digits := rest.takeWhile (· ≠ '\\')
    if digits.all Char.isDigit ∧ Text.digitsValue digits < UInt16.size then .ok ()
    else .error .badPort
  | _ => .ok ()

/-- The text names a drive, which stands in the place of a host. -/
def isDrive : List Char → Bool
  | [c, d] => c.isAlpha && (d = ':' || d = '|')
  | _ => false

/-- The authority has a host. -/
def hasHost (k : SchemeKind) (a : Authority) : Bool :=
  !(a.host.isEmpty || (k = .file && isDrive a.host))

/-- Checks the form of the host and the port. -/
def checkAuthority (k : SchemeKind) (a : Authority) : Except AddressFault Unit := do
  if a.host.isEmpty && (k = .internet || !a.mayLackHost) then throw .noHost
  if hasHost k a then checkHost k a.host
  checkPort a.port

/-- The bytes of a part of an address, its escapes resolved. -/
def partBytes (cs : List Char) : List UInt8 :=
  Text.percentDecode (Text.bytesOf cs)

/-- Checks that a part of an address stands for a text. -/
def checkPart (cs : List Char) : Except AddressFault Unit :=
  match Text.Utf8.fault? (partBytes cs) with
  | none => .ok ()
  | some fault => .error (.notText fault)

/-- The host is a path in the file system. -/
def isPath (host : List Char) : Bool :=
  (partBytes host).head? = some 0x2f

/-- Checks the parts of an authority that stand for texts: a host that is a
    path, and the name and the password of the credentials. -/
def checkParts (a : Authority) : Except AddressFault Unit := do
  if isPath a.host then checkPart a.host
  let credentials := a.credentials?.getD []
  checkPart (credentials.takeWhile (· ≠ ':'))
  checkPart ((credentials.dropWhile (· ≠ ':')).drop 1)

/-- Where the calls of an authority go, if it has a host. -/
def destination? (k : SchemeKind) (a : Authority) : Option Destination :=
  if !hasHost k a then none
  else if isPath a.host then some .socket
  else if k = .common || a.host.head? = some '[' then some (.ofHost a.host)
  else some (.ofInternetHost a.host)

/-- The parameters of an address, given what follows the scheme. -/
def parameters (cs : List Char) : List Parameter :=
  Parameter.ofQuery (((cs.takeWhile (· ≠ '#')).dropWhile (· ≠ '?')).drop 1)

end Address

/-- Checks that an address has the right form. -/
def checkAddress (address : String) : Except AddressFault Unit :=
  match Address.split? address with
  | none => .error .noScheme
  | some (k, rest) => do
    if let some a := Authority.ofText? k rest then
      Address.checkAuthority k a
      Address.checkParts a
    (Address.parameters rest).forM fun p => p.check.mapError .parameter

/-- Where the calls of an address go. Parameters may name other hosts, and variables one
    for addresses without. -/
def destination (env : Environment) (address : String) : Destination :=
  match Address.split? address with
  | none => .byDefault env
  | some (k, rest) =>
    .combined env (((Authority.ofText? k rest).bind (Address.destination? k)).toList ++
      (Address.parameters rest).filterMap Parameter.destination?)

/-- What happens when an address is called. -/
inductive Reach where
  | answered
  /-- The server refuses the connection, with a message. -/
  | refused (message : String)
  /-- Nothing can be sent there, for a reason of the system. -/
  | unreachable (reason : String)
deriving DecidableEq, Inhabited, Repr

/-- What happens on a machine without a network. -/
def Reach.offline (env : Environment) (address : String) : Reach :=
  .unreachable (destination env address).offline

/-- What an attempt to connect comes to. -/
def Reach.outcome : Reach → Except Error Unit
  | .answered => .ok ()
  | .refused message => .error (.storage "connecting" (databaseReason message))
  | .unreachable reason =>
    .error (.storage "connecting" ("error communicating with database: " ++ reason))

/-- Calls an address: its form is checked first. -/
def connect (reach : String → Reach) (address : String) : Except Error Unit :=
  match checkAddress address with
  | .ok _ => (reach address).outcome
  | .error fault => .error (.storage "connecting" ("error with configuration: " ++ fault.message))

end EventTables
