import EventTables.Json.Codec

/-!
# Records

Objects with known members.

A record type is described once, by the list of its members: their names, how
each is read into a record and how it is written from one. The description
gives both directions. A member that is not in the document keeps the value
that it has in the blank record, unless it is required.

A closed record may also be written as an array of its members in their order,
of which those at the end may be left out if they are not required; and members
that it does not know are passed over. An open record is always an object and
keeps the members that it does not know.

## Main definitions

* `Member`: One member of a record type.
* `Shape`: A record type: its title, its blank record and its members.
* `Shape.closed`: The codec of a record that drops unknown members.
* `Shape.opened`: The codec of a record that keeps unknown members.
-/

namespace EventTables

namespace Json

/-- One member of a record type. -/
structure Member (α : Type) where
  name : String
  /-- A document without the member is refused. -/
  required : Bool
  /-- Reads the member into a record. -/
  store : Origin → Tree → α → Except Error α
  /-- What is written for the member, if anything. -/
  load : α → Option Value

namespace Member

variable {α β : Type}

/-- A member that every document has to give. -/
def needed (name : String) (c : Codec β) (get : α → β) (set : β → α → α) : Member α where
  name := name
  required := true
  store o t a := (c.decode o t).map (set · a)
  load a := some (c.encode (get a))

/-- A member with a default. -/
def withDefault (name : String) (c : Codec β) (get : α → β) (set : β → α → α) : Member α :=
  { needed name c get set with required := false }

/-- A member that may be missing or null, and is not written then. -/
def optional (name : String) (c : Codec β) (get : α → Option β) (set : Option β → α → α) :
    Member α where
  name := name
  required := false
  store
    | _, .null, a => .ok (set none a)
    | o, t, a => (c.decode o t).map fun b => set (some b) a
  load a := (get a).map c.encode

end Member

/-- A record type. -/
structure Shape (α : Type) where
  /-- What the record is called where one was wanted. -/
  title : String
  /-- The record of a document that gives no member. -/
  blank : α
  /-- The members, in the order in which they are written. -/
  members : List (Member α)

namespace Shape

variable {α : Type} (s : Shape α)

/-- Reads the members of an object one by one. `seen` are the names of the
    known members read so far; `unknown` says what becomes of the others. -/
def readMembers (o : Origin) (unknown : String → Tree → α → Except Error α) :
    List (Except Fault String × Tree) → List String → α → Except Error (List String × α)
  | [], seen, a => .ok (seen, a)
  | (.error f, _) :: _, _, _ => .error (.malformed f)
  | (.ok name, t) :: rest, seen, a =>
    match s.members.find? fun m => m.name == name with
    | some m =>
      if name ∈ seen then .error (.repeatedMember name)
      else do
        let a ← m.store o t a
        readMembers o unknown rest (name :: seen) a
    | none => do
      let a ← unknown name t a
      readMembers o unknown rest seen a

/-- Reads an object. -/
def readObject (o : Origin) (unknown : Origin → String → Tree → α → Except Error α)
    (members : List (Except Fault String × Tree)) (breach : Option Breach) : Except Error α := do
  let inner ← o.enter
  let (seen, a) ← s.readMembers inner (unknown inner) members [] s.blank
  unbroken breach
  match s.members.find? fun m => m.required && !seen.contains m.name with
  | some m => .error (.missingMember m.name)
  | none => .ok a

/-- The fault of an array that does not close where all members have been
    read, from the fault that its next item would be. -/
def closingFault : Fault → Fault
  | .endInArray => .endInArray
  | .trailingComma => .trailingComma
  | _ => .trailingText

/-- The error of an array of `n` items, more than there are members. -/
def surplus (n : Nat) : Origin → Error
  | .text _ => .malformed .trailingText
  | .parsed => .wrongLength n "fewer elements in array"

/-- Reads the items of an array as the members in their order. `done` of the
    members come before. -/
def readItems (o : Origin) (breach : Option Breach) :
    List (Member α) → Nat → List Tree → α → Except Error α
  | [], done, items, a =>
    match items, breach with
    | [], none => .ok a
    | [], some b => .error (.malformed (closingFault b.reading))
    | _ :: _, _ => .error (surplus (done + items.length) o)
  | m :: ms, done, [], a =>
    match breach with
    | some b => .error (.malformed b.reading)
    | none =>
      if m.required then
        .error (.wrongLength done
          (s.title ++ " with " ++ toString s.members.length ++ " elements"))
      else readItems o breach ms done [] a
  | m :: ms, done, t :: ts, a => do
    let a ← m.store o t a
    readItems o breach ms (done + 1) ts a

/-- The members of a record as they are written. -/
def write (a : α) : List (String × Value) :=
  s.members.filterMap fun m => (m.load a).map fun v => (m.name, v)

/-- A record that may be written as an array and passes over unknown
    members. -/
def closed : Codec α where
  decode
    | o, .object members breach =>
      s.readObject o (fun _ _ t a => t.skip.map fun _ => a) members breach
    | o, .array items breach => do
      let inner ← o.enter
      s.readItems inner breach s.members 0 items s.blank
    | _, t => .error (t.refuse s.title)
  encode a := .object (s.write a)

/-- A record that keeps unknown members: `add` takes one in, and `extra` are
    those of a record. They are written after the known ones. -/
def opened (add : String → Value → α → α) (extra : α → List (String × Value)) : Codec α where
  decode
    | o, .object members breach =>
      s.readObject o (fun inner name t a => (t.value inner).map (add name · a)) members breach
    | _, t => .error (t.refuse s.title)
  encode a := .object (s.write a ++ extra a)

end Shape

end Json

end EventTables
