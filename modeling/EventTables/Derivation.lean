import EventTables.Config.Basic
import EventTables.Log.Notice

/-!
# Derived Columns

The columns that every row needs whatever its integration selects.

A row has to say which integration and which source wrote it and where in the
chain it comes from. These columns are added to a table, and the block fields
that fill them to its integration, each only where the name is not taken. A
table that declares no unique group then gets the one that these columns
suggest.

## Main definitions

* `Integration.requiredColumns`: The columns an integration needs.
* `Integration.addRequired`: The integration with its required fields.
* `Table.inferUnique`: The table with its inferred unique group.
* `Integration.derive`: Both, one after the other.
-/

namespace EventTables

namespace Integration

/-- The columns that the integration's rows need, in the order in which they
    are added. A log index goes with every selected input, and a number that
    tells apart decodings of a log body goes with every input read from one. -/
def requiredColumns (ig : Integration) : List Column :=
  [⟨"ig_name", "text"⟩, ⟨"src_name", "text"⟩, ⟨"block_num", "numeric"⟩, ⟨"tx_idx", "int"⟩] ++
    (if ig.event.selected.isEmpty then [] else [⟨"log_idx", "int"⟩]) ++
    (if ig.event.selectsUnindexed then [⟨"abi_idx", "int2"⟩] else [])

/-- Some block field has that name. -/
def hasBlockField (ig : Integration) (name : String) : Bool :=
  ig.block.any (·.name == name)

/-- The integration with a block field of the column's name that fills it, and
    with the column, each unless the name is taken. -/
def require (ig : Integration) (c : Column) : Integration :=
  { ig with
    block := if ig.hasBlockField c.name then ig.block else ig.block ++ [⟨c.name, c.name⟩]
    table := if ig.table.hasColumn c.name then ig.table else ig.table.addColumn c }

/-- The integration with all its required fields. -/
def addRequired (ig : Integration) : Integration :=
  ig.requiredColumns.foldl require ig

/-- The notices of the columns that are added. -/
def addRequiredNotices (ig : Integration) : List Notice :=
  (ig.requiredColumns.filter fun c => !ig.table.hasColumn c.name).map fun c =>
    .addingColumn ig.name c.name c.type

end Integration

namespace Table

/-- The columns that an inferred unique group is made of, in its order. -/
def uniqueCandidates : List String :=
  ["ig_name", "src_name", "block_num", "tx_idx", "log_idx", "abi_idx"]

/-- The candidates that the table has as columns. -/
def inferredGroup (t : Table) : List String :=
  uniqueCandidates.filter t.hasColumn

/-- The unique group that the table is to get, if any: it declares none, and
    some candidate is a column. -/
def missingGroup? (t : Table) : Option (List String) :=
  if t.unique.isEmpty && !t.inferredGroup.isEmpty then some t.inferredGroup else none

/-- The table with the unique group that it is to get. -/
def inferUnique (t : Table) : Table :=
  match t.missingGroup? with
  | some group => t.addUnique group
  | none => t

/-- The notice of the unique group that is added. -/
def inferUniqueNotices (t : Table) : List Notice :=
  (t.missingGroup?.map fun group => Notice.inferredUnique t.name group).toList

end Table

namespace Integration

/-- The integration with its table's inferred unique group. -/
def inferUnique (ig : Integration) : Integration :=
  { ig with table := ig.table.inferUnique }

/-- The integration with its required fields and then its inferred unique
    group. -/
def derive (ig : Integration) : Integration :=
  ig.addRequired.inferUnique

/-- The notices of the derivation. -/
def deriveNotices (ig : Integration) : List Notice :=
  ig.addRequiredNotices ++ ig.addRequired.table.inferUniqueNotices

end Integration

end EventTables
