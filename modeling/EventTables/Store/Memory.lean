import EventTables.Config.Document
import EventTables.Schema.Migration
import EventTables.Store.Effective

/-!
# Store in Memory

A store that keeps everything in lists.

Integrations are kept as the bytes of their documents and read only when they
are asked for, so a document that is no integration spoils every reading and
stays where it is. The store also takes statements, and remembers them.

## Main definitions

* `Memory`: What is kept.
* `Memory.addSource`, `Memory.addIntegration`, `Memory.addDocument`: Keeping
  one more.
* `Memory.store`: What reading gives.
* `Memory.executor`: Running statements.
-/

namespace EventTables

/-- What a store in memory keeps, each list with the latest last. -/
structure Memory where
  sources : List Source
  /-- The documents of integrations, as bytes. -/
  documents : List (List UInt8)
  /-- The statements that were run. -/
  executed : List String
deriving DecidableEq, Inhabited

namespace Memory

/-- A store that keeps nothing yet. -/
def empty : Memory := ⟨[], [], []⟩

/-- Keeps a source, of which name, chain and address remain. -/
def addSource (m : Memory) (s : Source) : Memory :=
  { m with sources := m.sources ++ [Source.named s.name s.chainId s.url] }

/-- Keeps a document as it is. -/
def addDocument (m : Memory) (bytes : List UInt8) : Memory :=
  { m with documents := m.documents ++ [bytes] }

/-- Keeps an integration as its document. -/
def addIntegration (m : Memory) (ig : Integration) : Memory :=
  m.addDocument ig.bytes

/-- Remembers a statement. -/
def addStatement (m : Memory) (stmt : String) : Memory :=
  { m with executed := m.executed ++ [stmt] }

/-- Reads documents in order, the first of them at a place. The first that
    cannot be read is reported with its place. -/
def readDocuments : Nat → List (List UInt8) → Except Error (List Integration)
  | _, [] => .ok []
  | place, d :: rest => do
    let ig ← Integration.ofBytes ("integration row " ++ toString place) d
    let igs ← readDocuments (place + 1) rest
    return ig :: igs

/-- What reading the store gives. -/
def store (m : Memory) : Store where
  sources := .ok m.sources
  integrations := readDocuments 0 m.documents

/-- The store as an executor, which accepts every statement. -/
def executor : Executor Memory where
  execute m stmt := (.ok (), m.addStatement stmt)

end Memory

end EventTables
