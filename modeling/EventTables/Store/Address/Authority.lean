import EventTables.Store.Address.Host

/-!
# Authorities

The part of a database address that says who calls which machine.

An address begins with a scheme and a colon. After two slashes comes the
authority: the credentials up to the last at sign, a host, and a port behind a
colon. It ends with a slash, a question mark or a hash sign.

Some schemes have rules of their own. Those of the Internet always have an
authority, however many slashes there are, and the slashes may be turned around.
That of files has a host, but nobody to call it, and no port.

Blanks and control characters around an address do not count, nor do tabs and
line ends within it.

## Main definitions

* `SchemeKind`: How addresses of a scheme are read.
* `Address.split?`: The kind of an address, and what follows its scheme.
* `Authority`: The parts of an authority.
* `Authority.ofText?`: The authority behind a scheme, if there is one.
-/

namespace EventTables

/-- How addresses of a scheme are read. -/
inductive SchemeKind where
  | common
  /-- The scheme is one of the Internet. -/
  | internet
  | file
deriving DecidableEq, Inhabited, Repr

namespace SchemeKind

/-- The kind of a scheme. -/
def ofScheme (scheme : String) : SchemeKind :=
  if scheme = "file" then .file
  else if ["ftp", "http", "https", "ws", "wss"].contains scheme then .internet
  else .common

/-- The character is a slash. -/
def isSlash (k : SchemeKind) (c : Char) : Bool :=
  c = '/' || (c = '\\' && k ≠ .common)

/-- The character ends an authority. -/
def endsAuthority (k : SchemeKind) (c : Char) : Bool :=
  k.isSlash c || c = '?' || c = '#'

end SchemeKind

namespace Address

/-- The character is a blank or a control character. -/
def isBlank (c : Char) : Bool :=
  c.toNat ≤ 0x20

/-- The address without the characters that do not count. -/
def trimmed (cs : List Char) : List Char :=
  (((cs.dropWhile isBlank).reverse.dropWhile isBlank).reverse).filter fun c =>
    !(c = '\t' || c = '\n' || c = '\r')

/-- The character may stand in a scheme. -/
def isSchemeChar (c : Char) : Bool :=
  c.isAlphanum || c = '+' || c = '-' || c = '.'

/-- The kind of an address, and what follows its scheme and the colon. -/
def split? (address : String) : Option (SchemeKind × List Char) :=
  let cs := trimmed address.toList
  let scheme := cs.takeWhile isSchemeChar
  match scheme, cs.drop scheme.length with
  | c :: _, ':' :: rest =>
    if c.isAlpha then some (.ofScheme (String.ofList (scheme.map Char.toLower)), rest) else none
  | _, _ => none

end Address

/-- The parts of an authority, and what stands behind it. -/
structure Authority where
  credentials? : Option (List Char)
  host : List Char
  /-- Nothing, or a colon and the port. -/
  port : List Char
  behind : List Char
deriving DecidableEq, Inhabited, Repr

namespace Authority

/-- The credentials, which end with the last at sign, if there are any. -/
def credentialsOf? (text : List Char) : Option (List Char) :=
  if text.contains '@' then some ((text.reverse.dropWhile (· ≠ '@')).drop 1).reverse
  else none

/-- The text without the credentials. -/
def withoutCredentials (text : List Char) : List Char :=
  (text.reverse.takeWhile (· ≠ '@')).reverse

/-- The host, and what follows it: nothing, or a colon and the port. A colon
    within brackets belongs to the host. -/
def splitHost : Bool → List Char → List Char × List Char
  | _, [] => ([], [])
  | inside, c :: cs =>
    if c = ':' && !inside then ([], c :: cs)
    else
      let rest := splitHost (c = '[' || (inside && c ≠ ']')) cs
      (c :: rest.1, rest.2)

/-- The authority at the beginning of a text. -/
def ofText (k : SchemeKind) (cs : List Char) : Authority :=
  let text := cs.takeWhile (!k.endsAuthority ·)
  let behind := cs.drop text.length
  if k = .file then ⟨none, text, [], behind⟩
  else
    let (host, port) := splitHost false (withoutCredentials text)
    ⟨credentialsOf? text, host, port, behind⟩

/-- The authority behind a scheme, if there is one. -/
def ofText? (k : SchemeKind) (cs : List Char) : Option Authority :=
  match k, cs with
  | .internet, cs => some (ofText k (cs.dropWhile k.isSlash))
  | k, c :: d :: rest => if k.isSlash c && k.isSlash d then some (ofText k rest) else none
  | _, _ => none

/-- The host may be left out: there are no credentials but perhaps a colon, and
    no port. After an at sign alone the address has to end. -/
def mayLackHost (a : Authority) : Bool :=
  a.port.isEmpty &&
    match a.credentials? with
    | none => true
    | some [] => a.behind.isEmpty
    | some cs => cs = [':']

end Authority

end EventTables
