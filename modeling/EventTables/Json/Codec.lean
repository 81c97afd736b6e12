import EventTables.Json.Tree

/-!
# Codecs

How the values of a type are read from a document and written into one.

A document reaches a reader in one of two ways: as text, or as a value that was
parsed before. Both are read through the same tree. Text allows only so many
arrays and objects to be open at once; a parsed value has no such limit, its
members come in key order, and it has no breach.

Every reader goes through its tree from the left and reports the first thing
that is wrong with it.

## Main definitions

* `Origin`: Where a tree comes from.
* `Tree.value`: The tree as a value.
* `Tree.refuse`: The error of a tree that is not what was wanted.
* `Codec`: A reader and a writer for one type.
* `Codec.ofText`, `Codec.ofBytes`, `Codec.ofValue`: Reading a whole document.
-/

namespace EventTables

namespace Json

/-- Where a tree comes from. -/
inductive Origin where
  /-- From text, inside of which so many more arrays and objects may be
      opened. -/
  | text (room : Nat)
  /-- From a parsed value. -/
  | parsed

/-- The origin of the parts of an array or object. -/
def Origin.enter : Origin → Except Error Origin
  | .text 0 => .error (.malformed .tooDeep)
  | .text (room + 1) => .ok (.text room)
  | .parsed => .ok .parsed

/-- Refuses an array or object that the document breaks off in. -/
def unbroken : Option Breach → Except Error Unit
  | none => .ok ()
  | some b => .error (.malformed b.reading)

namespace Tree

mutual

/-- The tree as a value. The members of objects come into key order, and of
    several with the same key the last one stays. -/
def value (o : Origin) : Tree → Except Error Value
  | .null => .ok .null
  | .boolean b => .ok (.boolean b)
  | .number (some n) => .ok (.number n)
  | .number none => .error (.malformed .numberOutOfRange)
  | .string (.ok s) => .ok (.string s)
  | .string (.error f) => .error (.malformed f)
  | .array items breach => do
    let inner ← o.enter
    let vs ← values inner items
    unbroken breach
    return .array vs
  | .object members breach => do
    let inner ← o.enter
    let vs ← memberValues inner members
    unbroken breach
    return .object (Keyed.ofList vs)
  | .broken b => .error (.malformed b.reading)

/-- The items as values. -/
def values (o : Origin) : List Tree → Except Error (List Value)
  | [] => .ok []
  | t :: ts => do
    let v ← value o t
    let vs ← values o ts
    return v :: vs

/-- The members with their values. -/
def memberValues (o : Origin) :
    List (Except Fault String × Tree) → Except Error (List (String × Value))
  | [] => .ok []
  | (.error f, _) :: _ => .error (.malformed f)
  | (.ok k, t) :: ms => do
    let v ← value o t
    let vs ← memberValues o ms
    return (k, v) :: vs

end

/-- The error of a tree in whose place something else was wanted. -/
def refuse (wanted : String) : Tree → Error
  | .null => .wrongKind .null wanted
  | .boolean b => .wrongKind (.boolean b) wanted
  | .number (some n) => .wrongKind (.number n) wanted
  | .number none => .malformed .numberOutOfRange
  | .string (.ok s) => .wrongKind (.string s) wanted
  | .string (.error f) => .malformed f
  | .array _ _ => .wrongKind .sequence wanted
  | .object _ _ => .wrongKind .map wanted
  | .broken b => .malformed b.reading

/-- Passes over a value that nobody keeps: only a breach in it matters. -/
def skip (t : Tree) : Except Error Unit :=
  match t.breach? with
  | none => .ok ()
  | some b => .error (.malformed b.skipping)

end Tree

namespace Value

mutual

/-- The value as a tree. -/
def tree : Value → Tree
  | .null => .null
  | .boolean b => .boolean b
  | .number n => .number (some n)
  | .string s => .string (.ok s)
  | .array items => .array (trees items) none
  | .object members => .object (memberTrees members) none

/-- The items as trees. -/
def trees : List Value → List Tree
  | [] => []
  | v :: vs => tree v :: trees vs

/-- The members with their trees. -/
def memberTrees : List (String × Value) → List (Except Fault String × Tree)
  | [] => []
  | (k, v) :: ms => (.ok k, tree v) :: memberTrees ms

end

end Value

/-- A reader and a writer for the values of a type. -/
structure Codec (α : Type) where
  /-- Reads a value from a tree. -/
  decode : Origin → Tree → Except Error α
  /-- Writes a value. -/
  encode : α → Value

namespace Codec

/-- Any value. -/
def any : Codec Value := ⟨Tree.value, id⟩

/-- A text. -/
def string : Codec String where
  decode
    | _, .string (.ok s) => .ok s
    | _, t => .error (t.refuse "a string")
  encode := .string

/-- A truth value. -/
def boolean : Codec Bool where
  decode
    | _, .boolean b => .ok b
    | _, t => .error (t.refuse "a boolean")
  encode := .boolean

/-- A whole number of 64 bits. -/
def uint64 : Codec UInt64 where
  decode
    | _, .number (some (.natural n)) => .ok n
    | _, .number (some (.negative m)) => .error (.outOfRange (.number (.negative m)) "u64")
    | _, t => .error (t.refuse "u64")
  encode n := .number (.natural n)

/-- A whole number of 32 bits. -/
def uint32 : Codec UInt32 where
  decode
    | _, .number (some (.natural n)) =>
      if n.toNat < UInt32.size then .ok n.toUInt32
      else .error (.outOfRange (.number (.natural n)) "u32")
    | _, .number (some (.negative m)) => .error (.outOfRange (.number (.negative m)) "u32")
    | _, t => .error (t.refuse "u32")
  encode n := .number (.natural n.toUInt64)

/-- The items of an array. -/
def listOf {α : Type} (c : Codec α) : Codec (List α) where
  decode
    | o, .array items breach => do
      let inner ← o.enter
      let xs ← items.mapM (c.decode inner)
      unbroken breach
      return xs
    | _, t => .error (t.refuse "a sequence")
  encode xs := .array (xs.map c.encode)

/-- The codec of another type with the same documents. -/
def convert {α β : Type} (c : Codec α) (into : α → β) (back : β → α) : Codec β where
  decode o t := (c.decode o t).map into
  encode b := c.encode (back b)

variable {α : Type} (c : Codec α)

/-- At most so many arrays and objects are open at once in a text. -/
def depthLimit : Nat := 127

/-- Reads a document. -/
def ofDocument (d : Document) : Except Error α := do
  let a ← c.decode (.text depthLimit) d.root
  if d.trailing then .error (.malformed .trailingText) else .ok a

/-- Reads a document from its glyphs. -/
def ofGlyphs (gs : List Glyph) : Except Error α :=
  c.ofDocument (.ofGlyphs gs)

/-- Reads a document from its text. -/
def ofText (s : String) : Except Error α :=
  c.ofGlyphs (Glyph.ofText s)

/-- Reads a document from its bytes. -/
def ofBytes (bytes : List UInt8) : Except Error α :=
  c.ofGlyphs (Glyph.ofBytes bytes)

/-- Reads a value that was parsed before. -/
def ofValue (v : Value) : Except Error α :=
  c.decode .parsed v.tree

end Codec

end Json

end EventTables
