import GatewayRegistrar.Text.Cut

/-!
# Paths

A path names a value by the way to it: from the current value, from one further out, or from the outermost one. A path
that begins with an at sign names a variable of an enclosing loop instead.
-/

namespace GatewayRegistrar.Template

/-- One step of a path. -/
inductive Step where
  | outermost
  | localMark
  | up
  | key (name : String)
deriving DecidableEq, Repr

/-- A path as it was written, with its steps. -/
structure Path where
  written : String
  steps : List Step
deriving DecidableEq, Repr

namespace Path

/-- The loop variable that the steps behind an at sign name, with the number of loops to leave first. -/
def localName? : List Step → Option (Nat × String)
  | .up :: rest => (localName? rest).map fun (level, name) => (level + 1, name)
  | .key name :: _ => some (0, name)
  | _ => none

/-- The loop variable that the path names, if it names one. -/
def localVariable? (p : Path) : Option (Nat × String) :=
  match p.steps with
  | .localMark :: rest => localName? rest
  | _ => none

/-- The keys on the way. -/
def keys (steps : List Step) : List String :=
  steps.filterMap fun
    | .key name => some name
    | _ => none

end Path

end GatewayRegistrar.Template
