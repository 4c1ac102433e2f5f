import GatewayRegistrar.Decimal.Binary64
import GatewayRegistrar.Value.Entries

/-!
# Data values

The values that documents of structured data hold, whatever their notation. A table keeps its entries in the order
in which they stand.
-/

namespace GatewayRegistrar

/-- A value of structured data. -/
inductive Value where
  | null
  | boolean (b : Bool)
  | integer (n : Int)
  | float (x : Binary64)
  | text (s : String)
  | list (items : List Value)
  | table (entries : List (String × Value))
deriving Repr, Inhabited

namespace Value

/-- The field `key` of a table. -/
def get? (key : String) : Value → Option Value
  | .table entries => entryOf? key entries
  | _ => none

/-- A list of texts. -/
def ofTexts (ts : List String) : Value := .list (ts.map .text)

/-- A table of texts. -/
def ofTextTable (entries : List (String × String)) : Value :=
  .table (entries.map fun (k, v) => (k, .text v))

/-- A text, or null when there is none. -/
def ofText? : Option String → Value
  | some s => .text s
  | none => .null

end Value

mutual

/-- The value with the entries of every table in the order of their keys, each key once. -/
def Value.sorted : Value → Value
  | .list items => .list (Value.sortedItems items)
  | .table entries => .table (sortEntries (Value.sortedEntries entries))
  | v => v

/-- The items of a list, each sorted. -/
def Value.sortedItems : List Value → List Value
  | [] => []
  | v :: vs => v.sorted :: Value.sortedItems vs

/-- The entries of a table, each value sorted. -/
def Value.sortedEntries : List (String × Value) → List (String × Value)
  | [] => []
  | (k, v) :: rest => (k, v.sorted) :: Value.sortedEntries rest

end

end GatewayRegistrar
