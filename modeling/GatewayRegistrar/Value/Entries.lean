/-!
# Entries

Maps from texts are lists of entries. In a map in normal form the keys ascend, so each key stands once and two maps
that give the same values are equal.
-/

namespace GatewayRegistrar

/-- Puts an entry before the first one with a larger key, in place of an entry with the same key. -/
def insertSorted {α : Type} (key : String) (v : α) : List (String × α) → List (String × α)
  | [] => [(key, v)]
  | (k, w) :: rest =>
    if key = k then (key, v) :: rest
    else if key < k then (key, v) :: (k, w) :: rest
    else (k, w) :: insertSorted key v rest

/-- The entries in the order of their keys; of entries with one key the last stays. -/
def sortEntries {α : Type} (entries : List (String × α)) : List (String × α) :=
  entries.foldl (fun sorted (k, v) => insertSorted k v sorted) []

/-- The value under `key`: that of the first entry with this key. -/
def entryOf? {α : Type} (key : String) (entries : List (String × α)) : Option α :=
  (entries.find? (·.1 = key)).map (·.2)

/-- Whether the keys ascend. -/
def Ascending {α : Type} (entries : List (String × α)) : Prop :=
  entries.Pairwise fun e f => e.1 < f.1

end GatewayRegistrar
