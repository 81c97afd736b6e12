import EventTables.Json.Number
import EventTables.Keyed

/-!
# JSON Values

JSON as data.

The members of an object are a list in the order in which they are written. A
value that was read from text has its members in key order, `Value.sorted`
brings any value into that order.

## Main definitions

* `Value`: A JSON value.
* `Value.same`: Equality of values, doubles compared as numbers.
* `Value.sorted`: The value with all members in key order.
-/

namespace EventTables

namespace Json

/-- A JSON value. -/
inductive Value where
  | null
  | boolean (b : Bool)
  | number (n : Number)
  | string (s : String)
  | array (items : List Value)
  | object (members : List (String × Value))
deriving Inhabited

namespace Value

mutual

/-- Equality of values, member by member in the order of the lists. -/
def same : Value → Value → Bool
  | .null, .null => true
  | .boolean a, .boolean b => a == b
  | .number a, .number b => a.same b
  | .string a, .string b => a == b
  | .array a, .array b => sameItems a b
  | .object a, .object b => sameMembers a b
  | _, _ => false

/-- Equality of items, one by one. -/
def sameItems : List Value → List Value → Bool
  | [], [] => true
  | a :: as, b :: bs => same a b && sameItems as bs
  | _, _ => false

/-- Equality of members, one by one. -/
def sameMembers : List (String × Value) → List (String × Value) → Bool
  | [], [] => true
  | (k, a) :: as, (l, b) :: bs => k == l && same a b && sameMembers as bs
  | _, _ => false

end

instance : BEq Value := ⟨same⟩

mutual

/-- The value with the members of all its objects in key order, of a repeated
    key the last. -/
def sorted : Value → Value
  | .array items => .array (sortedItems items)
  | .object members => .object (Keyed.ofList (sortedMembers members))
  | v => v

/-- The items, each with its members in key order. -/
def sortedItems : List Value → List Value
  | [] => []
  | v :: vs => sorted v :: sortedItems vs

/-- The members in the order given, each with its own members in key order. -/
def sortedMembers : List (String × Value) → List (String × Value)
  | [] => []
  | (k, v) :: ms => (k, sorted v) :: sortedMembers ms

end

end Value

end Json

end EventTables
