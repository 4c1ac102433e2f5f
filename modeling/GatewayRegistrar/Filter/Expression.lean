import GatewayRegistrar.Pattern.Basic
import GatewayRegistrar.Service.Identity

/-!
# Filter expressions

A filter asks for services with a certain tag in whose value a pattern can be found. It is written
`Name=tag:KEY,Values=PATTERN`; only the separators in it have a meaning, so neither side may hold one of its own.
-/

namespace GatewayRegistrar

/-- A filter expression that has been read. -/
structure Filter where
  tagKey : String
  pattern : String
  expression : String
deriving DecidableEq, Repr

/-- Why a filter is of no use. -/
inductive FilterFault where
  | malformed (expression : String)
  | pattern (r : Pattern.Refusal)
deriving DecidableEq, Repr

/-- What is wrong with the filter, in words. -/
def FilterFault.message : FilterFault → String
  | malformed expression => "invalid filter " ++ expression ++ " expected to be in format Name=tag:Key,Values=value"
  | pattern r => "Invalid pattern: " ++ r.message

/-- A filter whose pattern can be searched for. -/
structure CompiledFilter where
  filter : Filter
  pattern : Pattern
deriving DecidableEq, Repr

/-- Whether the service carries the tag, with a value in which the pattern can be found. -/
def CompiledFilter.admits (c : CompiledFilter) (i : Identity) : Bool :=
  (entryOf? c.filter.tagKey i.tags).any c.pattern.matchesIn

namespace Filter

/-- The key and the pattern of an expression: there is one comma, one colon before it and one equals sign behind it. -/
def split? (expression : List Char) : Option (List Char × List Char) := do
  let (name, values) ← splitOnce? ',' expression
  let (_, key) ← splitOnce? ':' name
  let (_, pattern) ← splitOnce? '=' values
  return (key, pattern)

/-- Reads an expression. -/
def ofText? (expression : String) : Except FilterFault Filter :=
  match split? expression.toList with
  | some (key, pattern) => .ok ⟨String.ofList key, String.ofList pattern, expression⟩
  | none => .error (.malformed expression)

/-- The filter as it was written. -/
def toText (f : Filter) : String := f.expression

/-- The filter with its pattern worked out. -/
def compile (f : Filter) : Except FilterFault CompiledFilter :=
  match Pattern.ofText? f.pattern with
  | .ok p => .ok ⟨f, p⟩
  | .error r => .error (.pattern r)

/-- Whether the filter admits a service; one whose pattern is of no use admits none. -/
def admits (f : Filter) (i : Identity) : Bool :=
  match f.compile with
  | .ok c => c.admits i
  | .error _ => false

end Filter

end GatewayRegistrar
