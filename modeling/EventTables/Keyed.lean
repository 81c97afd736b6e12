/-!
# Entries in Key Order

Lists of entries kept in ascending order of their keys, one entry a key.

Wherever the answers of this library are grouped under names or numbers, they
come in the order of those keys. A text is ordered by its code points, which
is the order of its UTF-8 bytes. `put` is the only way an entry gets into such
a list, so the list built from any history of `put`s is in order and repeats
no key.

## Main definitions

* `Keyed`: Entries, each with its key.
* `Keyed.put`: Adds an entry, in place of the one with that key.
* `Keyed.find?`: The entry under a key.
* `Keyed.ofList`: The entries of a history, of equal keys the last.
-/

namespace EventTables

/-- Entries with their keys, in ascending order of the keys. -/
abbrev Keyed (κ β : Type) := List (κ × β)

namespace Keyed

variable {κ β : Type} [Ord κ]

/-- Adds an entry at its place in the order, or in place of the entry that has
    its key. -/
def put (k : κ) (v : β) : Keyed κ β → Keyed κ β
  | [] => [(k, v)]
  | (k', v') :: rest =>
    match compare k k' with
    | .lt => (k, v) :: (k', v') :: rest
    | .eq => (k, v) :: rest
    | .gt => (k', v') :: put k v rest

/-- What is kept under the key. -/
def find? (k : κ) : Keyed κ β → Option β
  | [] => none
  | (k', v) :: rest => if compare k k' = .eq then some v else find? k rest

/-- The entries of a history in key order. Of several under one key the last
    one stays. -/
def ofList (entries : List (κ × β)) : Keyed κ β :=
  entries.foldl (fun kept e => put e.1 e.2 kept) []

end Keyed

end EventTables
