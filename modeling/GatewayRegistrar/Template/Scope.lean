import GatewayRegistrar.Template.Fault
import GatewayRegistrar.Value.Entries

/-!
# Where names are looked up

Loops and the like open scopes. A scope has a current value: one that is reached from the outermost value by a way of
keys, or one of its own. Looking up a path begins at the current value of a scope.
-/

namespace GatewayRegistrar.Template

/-- A scope: the way to its current value, a current value of its own if it has one, the variables of its loop, and the
names that its tag gives. A name without a value stands for the current value. -/
structure Scope where
  base : List String := []
  own : Option Value := none
  loop : List (String × Value) := []
  names : List (String × Option Value) := []

/-- What a term comes to. A value that is reached from the outermost one knows the way. -/
inductive Found where
  | missing
  | reached (way : List String) (v : Value)
  | computed (v : Value)

namespace Found

/-- The value; null when there is none. -/
def value : Found → Value
  | missing => .null
  | reached _ v => v
  | computed v => v

/-- The way to the value from the outermost one. -/
def way? : Found → Option (List String)
  | reached way _ => some way
  | _ => none

/-- Whether there is no value. -/
def isMissing : Found → Bool
  | missing => true
  | _ => false

end Found

/-- What a term comes to, with the path that it was written as. -/
structure Operand where
  written : Option String
  found : Found

/-- The index that a key writes: digits, behind at most one plus sign. -/
def indexOfKey? (key : String) : Option Nat :=
  let digits := (dropStart? ['+'] key.toList).getD key.toList
  if digits.isEmpty || digits.any (!·.isDigit) then none
  else
    let n := digits.foldl (fun n d => n * 10 + (d.toNat - '0'.toNat)) 0
    if n < 1 <<< 64 then some n else none

/-- One step into a value. Only a list refuses a key. -/
def stepInto? (key : String) : Value → Except FaultKind (Option Value)
  | .list items =>
    match indexOfKey? key with
    | some n => .ok items[n]?
    | none => .error (.notAnIndex key)
  | .table entries => .ok (entryOf? key entries)
  | _ => .ok none

/-- The value at the end of the keys. -/
def follow : List String → Option Value → Except FaultKind (Option Value)
  | [], v => .ok v
  | _, none => .ok none
  | key :: rest, some v => do
    let next ← stepInto? key v
    follow rest next

/-- The value at the end of a way from the outermost one. -/
def reach (root : Value) (way : List String) : Except FaultKind Found := do
  match ← follow way (some root) with
  | some v => return .reached way v
  | none => return .missing

/-- The value at the end of the keys from a value of its own. -/
def reachWithin (v : Value) (keys : List String) : Except FaultKind Found := do
  match ← follow keys (some v) with
  | some v => return .computed v
  | none => return .missing

/-- The value at the end of the keys from the current value of a scope. -/
def Scope.reach (root : Value) (s : Scope) (keys : List String) : Except FaultKind Found :=
  match s.own with
  | some v => reachWithin v keys
  | none => Template.reach root (s.base ++ keys)

/-- What a name stands for, and the scope that gives it. -/
def named? (name : String) : List Scope → Option (Scope × Option Value)
  | [] => none
  | s :: rest =>
    match s.names.reverse.find? (·.1 = name) with
    | some (_, v) => some (s, v)
    | none => named? name rest

/-- What a path other than a loop variable begins with. -/
inductive Origin where
  | current
  | outermost
  | up (levels : Nat)
  | name (levels : Nat) (text : String)
deriving DecidableEq, Repr

/-- The beginning of a path. -/
def originOf (levels : Nat) : List Step → Origin
  | .up :: rest => originOf (levels + 1) rest
  | .key text :: _ => .name levels text
  | .outermost :: _ => .outermost
  | _ => if levels = 0 then .current else .up levels

/-- The scope so many levels further out; beyond the last one it is the innermost again. -/
def scopeUp (levels : Nat) (scopes : List Scope) : Scope := ((scopes[levels]?).or scopes.head?).getD {}

/-- The value of the path in the scopes. A loop variable is searched from the scope that the path names outwards. -/
def lookUp (root : Value) (scopes : List Scope) (p : Path) : Except FaultKind Found :=
  match p.localVariable? with
  | some (levels, name) =>
    match (scopes.drop levels).findSome? fun s => entryOf? name s.loop with
    | some v => .ok (.computed v)
    | none => .ok .missing
  | none =>
    let keys := Path.keys p.steps
    let fromLevel (levels : Nat) : Except FaultKind Found := (scopeUp levels scopes).reach root keys
    match originOf 0 p.steps with
    | .current => fromLevel 0
    | .outermost => reach root keys
    | .up levels => fromLevel levels
    | .name levels text =>
      match named? text scopes with
      | some (_, some v) => reachWithin v (keys.drop 1)
      | some (s, none) => reach root (s.base ++ keys.drop 1)
      | none => fromLevel levels

end GatewayRegistrar.Template
