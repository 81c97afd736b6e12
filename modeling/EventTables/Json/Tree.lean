import EventTables.Json.Token

/-!
# Document Trees

The shape of a JSON document, also of one that is broken.

A reader that goes through a document from the left reports what it meets
first: a value it did not want, or the place where the text stops being JSON.
So that reading can be a plain function on data, the tree of a document holds
both. It keeps all members of an object in their order, repeated ones too, and
where the text breaks it holds the breach: the value that could not be read is
a `broken` tree, and every array and object that was open at that place carries
the breach after the parts that came before it. A document has at most one
breach, so a part that carries none is sound throughout, however deep it is.

The tree is built token by token, with the arrays and objects that are open
kept in a list.

## Main definitions

* `Tree`: The shape of a value.
* `Tree.breach?`: The breach within a value.
* `Reader`: A document read up to some token.
* `Document`: A document: its tree, and whether it goes on after it.
* `Document.ofGlyphs`: The document that a text spells.
-/

namespace EventTables

namespace Json

/-- The shape of a value in a document. -/
inductive Tree where
  | null
  | boolean (b : Bool)
  /-- A number, or a double beyond the largest. -/
  | number (n : Option Number)
  /-- A string, or why it cannot be kept. -/
  | string (s : Except Fault String)
  /-- The items of an array, and the breach that comes before its end. -/
  | array (items : List Tree) (breach : Option Breach)
  /-- The members of an object in the order of the document, and the breach
      that comes before its end. -/
  | object (members : List (Except Fault String × Tree)) (breach : Option Breach)
  /-- A value that cannot be read. -/
  | broken (breach : Breach)

/-- The breach within a value. -/
def Tree.breach? : Tree → Option Breach
  | .array _ breach => breach
  | .object _ breach => breach
  | .broken breach => some breach
  | _ => none

/-- The members of an open object, the latest first. -/
abbrev OpenMembers := List (Except Fault String × Tree)

/-- An array or object whose end has not been read. -/
inductive Frame where
  /-- An array with the items read so far, the latest first. -/
  | array (items : List Tree)
  /-- An object with the members read so far, the latest first, and the key of
      the member whose value is being read. -/
  | object (members : OpenMembers) (key : Except Fault String)

/-- The whole tree, where the document breaks off in the value inside the open
    frames. -/
def Frame.sealAll (breach : Breach) : List Frame → Tree → Tree
  | [], t => t
  | .array items :: outer, t =>
    sealAll breach outer (.array (t :: items).reverse (some breach))
  | .object members key :: outer, t =>
    sealAll breach outer (.object ((key, t) :: members).reverse (some breach))

/-- A document: its tree, and whether more text follows the tree. -/
structure Document where
  root : Tree
  trailing : Bool

namespace Document

/-- The document breaks off where the value inside the open frames is due. -/
def cutValue (b : Breach) (outer : List Frame) : Document :=
  ⟨Frame.sealAll b outer (.broken b), false⟩

/-- The document breaks off between the items of an array. -/
def cutArray (b : Breach) (items : List Tree) (outer : List Frame) : Document :=
  ⟨Frame.sealAll b outer (.array items.reverse (some b)), false⟩

/-- The document breaks off between the members of an object. -/
def cutObject (b : Breach) (members : OpenMembers) (outer : List Frame) : Document :=
  ⟨Frame.sealAll b outer (.object members.reverse (some b)), false⟩

end Document

/-- A document read up to some token: what is due next, inside which open
    frames. -/
inductive Reader where
  /-- A value is due. -/
  | value (outer : List Frame)
  /-- An array has just been opened. -/
  | arrayStart (outer : List Frame)
  /-- An item of an array has been read. -/
  | afterItem (items : List Tree) (outer : List Frame)
  /-- An object has just been opened. -/
  | objectStart (outer : List Frame)
  /-- A comma after a member has been read. -/
  | keyDue (members : OpenMembers) (outer : List Frame)
  /-- A key has been read. -/
  | afterKey (members : OpenMembers) (key : Except Fault String) (outer : List Frame)
  /-- A member of an object has been read. -/
  | afterMember (members : OpenMembers) (outer : List Frame)
  /-- The document has been read. -/
  | complete (root : Tree)
  /-- Nothing that follows matters any more. -/
  | settled (document : Document)

namespace Reader

/-- A value has been read inside the open frames. -/
def finish (t : Tree) : List Frame → Reader
  | [] => .complete t
  | .array items :: outer => .afterItem (t :: items) outer
  | .object members key :: outer => .afterMember ((key, t) :: members) outer

/-- Reads the token that a value begins with. -/
def beginValue (outer : List Frame) : Token → Reader
  | .openArray => .arrayStart outer
  | .openObject => .objectStart outer
  | .null => finish .null outer
  | .boolean b => finish (.boolean b) outer
  | .number n => finish (.number n) outer
  | .string s => finish (.string s) outer
  | .brokenString b => .settled (.cutValue b outer)
  | .broken b => .settled (.cutValue b outer)
  | _ => .settled (.cutValue Fault.valueExpected.anywhere outer)

/-- Reads one token. -/
def step : Reader → Token → Reader
  | .value (.array items :: outer), .closeArray =>
    .settled (.cutArray ⟨.trailingComma, .valueExpected⟩ items outer)
  | .value outer, t => beginValue outer t
  | .arrayStart outer, .closeArray => finish (.array [] none) outer
  | .arrayStart outer, t => beginValue (.array [] :: outer) t
  | .afterItem items outer, .comma => .value (.array items :: outer)
  | .afterItem items outer, .closeArray => finish (.array items.reverse none) outer
  | .afterItem items outer, _ =>
    .settled (.cutArray Fault.arraySeparatorExpected.anywhere items outer)
  | .objectStart outer, .closeObject => finish (.object [] none) outer
  | .objectStart outer, .string s => .afterKey [] s outer
  | .objectStart outer, .brokenString b => .settled (.cutObject b [] outer)
  | .objectStart outer, _ => .settled (.cutObject Fault.keyExpected.anywhere [] outer)
  | .keyDue members outer, .string s => .afterKey members s outer
  | .keyDue members outer, .brokenString b => .settled (.cutObject b members outer)
  | .keyDue members outer, .closeObject =>
    .settled (.cutObject ⟨.trailingComma, .keyExpected⟩ members outer)
  | .keyDue members outer, _ => .settled (.cutObject Fault.keyExpected.anywhere members outer)
  | .afterKey members k outer, .colon => .value (.object members k :: outer)
  | .afterKey members k outer, _ =>
    .settled (.cutValue Fault.colonExpected.anywhere (.object members k :: outer))
  | .afterMember members outer, .comma => .keyDue members outer
  | .afterMember members outer, .closeObject => finish (.object members.reverse none) outer
  | .afterMember members outer, _ =>
    .settled (.cutObject Fault.objectSeparatorExpected.anywhere members outer)
  | .complete root, _ => .settled ⟨root, true⟩
  | .settled d, _ => .settled d

/-- The document, if its text ends here. -/
def atEnd : Reader → Document
  | .value outer => .cutValue Fault.endInValue.anywhere outer
  | .arrayStart outer => .cutArray Fault.endInArray.anywhere [] outer
  | .afterItem items outer => .cutArray Fault.endInArray.anywhere items outer
  | .objectStart outer => .cutObject Fault.endInObject.anywhere [] outer
  | .keyDue members outer => .cutObject ⟨.endInValue, .endInObject⟩ members outer
  | .afterKey members k outer =>
    .cutValue Fault.endInObject.anywhere (.object members k :: outer)
  | .afterMember members outer => .cutObject Fault.endInObject.anywhere members outer
  | .complete root => ⟨root, false⟩
  | .settled d => d

end Reader

/-- The document that the tokens spell. -/
def Document.ofTokens (ts : List Token) : Document :=
  (ts.foldl Reader.step (.value [])).atEnd

/-- The document that a text spells. -/
def Document.ofGlyphs (gs : List Glyph) : Document :=
  ofTokens (tokens gs)

end Json

end EventTables
