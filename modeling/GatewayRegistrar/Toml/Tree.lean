import GatewayRegistrar.Value.Basic

/-!
# The tables of a TOML document

A document names its tables piece by piece: in headers, in dotted keys, or only on the way to another table. A table
may be named in one of these ways only, and a key once. The tree remembers how each table came to be for as long as
the document is read.
-/

namespace GatewayRegistrar.Toml

/-- How a table came to be: by a header, on the way to a table with a header, or by a dotted key. -/
inductive Origin where
  | header
  | passing
  | dotted
deriving DecidableEq, Repr

/-- What stands under a key: a value, a table, or a list of tables of which only the last can still grow. -/
inductive Branch where
  | leaf (v : Value)
  | table (origin : Origin) (entries : List (String × Branch))
  | tables (earlier : List (List (String × Branch))) (last : List (String × Branch))
deriving Repr, Inhabited

/-- The entries of a table, in the order in which they were named. -/
abbrev Entries := List (String × Branch)

/-- A key, behind the keys of the tables that lead to it. -/
structure Path where
  parents : List String
  name : String
deriving DecidableEq, Repr

namespace Path

/-- All keys of the path. -/
def keys (p : Path) : List String := p.parents ++ [p.name]

end Path

namespace Entries

/-- Puts a branch under a key, in place of the one that is there or else at the end. -/
def put (key : String) (b : Branch) : Entries → Entries
  | [] => [(key, b)]
  | (k, c) :: rest => if k = key then (k, b) :: rest else (k, c) :: put key b rest

/-- The entries without a key. -/
def without (key : String) (es : Entries) : Entries := es.filter (·.1 ≠ key)

/-- Acts on the table that a path leads to, given how that table came to be. Tables on the way that are not there yet
come to be as `made` says; a dotted key leads through no table with a header. -/
def within (made : Origin) (act : Origin → Entries → Option Entries) :
    List String → Origin → Entries → Option Entries
  | [], origin, es => act origin es
  | k :: ks, _, es =>
    match entryOf? k es with
    | none => (within made act ks made []).map fun inner => put k (.table made inner) es
    | some (.leaf _) => none
    | some (.tables earlier last) =>
      (within made act ks .header last).map fun inner => put k (.tables earlier inner) es
    | some (.table origin inner) =>
      if made = .dotted ∧ origin = .header then none
      else (within made act ks origin inner).map fun inner => put k (.table origin inner) es

/-- Gives a value to a key. The tables of a dotted key have to be those of dotted keys. -/
def assign (p : Path) (v : Value) (es : Entries) : Option Entries :=
  within .dotted (fun origin es =>
    if (p.parents ≠ [] ∧ origin ≠ .dotted) ∨ (entryOf? p.name es).isSome then none
    else some (es ++ [(p.name, .leaf v)])) p.parents .header es

/-- Opens a table by its header. A table that was only on the way to others moves to the end. -/
def openTable (p : Path) (es : Entries) : Option Entries :=
  within .passing (fun _ es =>
    match entryOf? p.name es with
    | none => some (es ++ [(p.name, .table .header [])])
    | some (.table .passing inner) => some (es.without p.name ++ [(p.name, .table .header inner)])
    | some _ => none) p.parents .header es

/-- Opens one more table of a list by its header. -/
def openItem (p : Path) (es : Entries) : Option Entries :=
  within .passing (fun _ es =>
    match entryOf? p.name es with
    | none => some (es ++ [(p.name, .tables [] [])])
    | some (.tables earlier last) => some (es.put p.name (.tables (earlier ++ [last]) []))
    | some _ => none) p.parents .header es

/-- Gives a value to a key of the table that was opened last. -/
def assignUnder (opened : List String) (p : Path) (v : Value) (es : Entries) : Option Entries :=
  within .passing (fun _ es => assign p v es) opened .header es

end Entries

mutual

/-- The value of a branch. -/
def Branch.toValue : Branch → Value
  | .leaf v => v
  | .table _ es => .table (entryValues es)
  | .tables earlier last => .list (tableValues earlier ++ [.table (entryValues last)])

/-- The entries with their values. -/
def entryValues : List (String × Branch) → List (String × Value)
  | [] => []
  | (k, b) :: rest => (k, b.toValue) :: entryValues rest

/-- The tables of a list. -/
def tableValues : List (List (String × Branch)) → List Value
  | [] => []
  | es :: rest => .table (entryValues es) :: tableValues rest

end

/-- The table with the given pairs of keys and values; `none` when they do not fit together. -/
def tableOf? (pairs : List (Path × Value)) : Option Value :=
  (pairs.foldlM (fun es (p, v) => Entries.assign p v es) ([] : Entries)).map fun es => .table (entryValues es)

end GatewayRegistrar.Toml
