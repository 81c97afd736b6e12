import EventTables.Config.Basic
import EventTables.Store.Address.Host

/-!
# Destinations

Where the calls of a database address go.

A host is a number, in which case a call can be tried at once, or a name, which
has to be looked up first. A number of the shorter kind may be written in its
looser form. One name is known without looking it up, that of the machine
itself, which is meant too where an address has no host and no variable names one.

A machine without a network still tells these apart, since it gives up at
different places.

## Main definitions

* `Destination`: Where calls go.
* `Destination.ofHost`, `Destination.ofInternetHost`: The destination of a host.
* `Destination.offline`: Why a machine without a network does not get there.
-/

namespace EventTables

namespace Host

/-- The text is a part of a name that can be looked up. -/
def isLabel (cs : List Char) : Bool :=
  !cs.isEmpty && cs.length ≤ 63 && cs.all fun c => c.isAlphanum || c = '-' || c = '_'

/-- The name can be looked up. A point may stand at its end, or alone. -/
def isKnowable (cs : List Char) : Bool :=
  let labels := withoutLastPoint cs
  cs = ['.'] || (labels.head? ≠ some '-' && labels.length ≤ 253 && (parts labels).all isLabel)

end Host

/-- Where calls go. -/
inductive Destination where
  /-- A socket in the file system. -/
  | socket
  /-- The machine itself. -/
  | here
  /-- A machine with a number of the shorter kind. -/
  | shortNumber
  /-- A machine with a number of the longer kind. -/
  | longNumber
  /-- A machine whose name has to be looked up. -/
  | name
  /-- Nothing that could be looked up. -/
  | nameless
deriving DecidableEq, Inhabited, Repr

namespace Destination

/-- The destination of a host. Brackets around it do not count. -/
def ofHost (host : List Char) : Destination :=
  let isBracket c := c = '[' || c = ']'
  let cs := ((host.dropWhile isBracket).reverse.dropWhile isBracket).reverse
  if Host.isLongNumber cs then .longNumber
  else if Host.isLooseNumber Host.partNumber? cs then .shortNumber
  else if cs.map Char.toLower = "localhost".toList then .here
  else if Host.isKnowable cs then .name
  else .nameless

/-- The destination of a host in an address of the Internet. -/
def ofInternetHost (host : List Char) : Destination :=
  let name := (Host.internetName? host).getD []
  if Host.isInternetNumber name then .shortNumber else ofHost name

/-- The destination of a host outside of an authority, where it may be a path in the
    file system. -/
def ofNamed (host : String) : Destination :=
  if host.startsWith "/" then .socket else ofHost host.toList

/-- The variables that name a host for addresses without one. -/
def hostVariables : List String :=
  ["PGHOSTADDR", "PGHOST"]

/-- Where addresses without a host lead. -/
def byDefault (env : Environment) : Destination :=
  ((hostVariables.findSome? env).map ofNamed).getD .here

/-- Where the hosts of an address lead: to a socket if there is one, and otherwise
    to the last of them. -/
def combined (env : Environment) (hosts : List Destination) : Destination :=
  if hosts.contains .socket then .socket else hosts.getLast?.getD (byDefault env)

/-- Why a machine without a network does not get there, in the words of its
    system. Numbers of the longer kind cannot even be called from there. -/
def offline : Destination → String
  | .socket => "No such file or directory (os error 2)"
  | .here => "Network is unreachable (os error 101)"
  | .shortNumber => "Network is unreachable (os error 101)"
  | .longNumber => "Cannot assign requested address (os error 99)"
  | .name => "failed to lookup address information: Temporary failure in name resolution"
  | .nameless => "failed to lookup address information: Name or service not known"

end Destination

end EventTables
