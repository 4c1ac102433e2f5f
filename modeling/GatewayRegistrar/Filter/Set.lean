import GatewayRegistrar.Filter.Expression

/-!
# Selecting services

A service is kept when every inclusion admits it and no exclusion does. An expression that is of no use admits nothing:
as an inclusion it empties the selection, as an exclusion it has no effect.
-/

namespace GatewayRegistrar

/-- What an expression comes to. -/
inductive Predicate where
  | compiled (c : CompiledFilter)
  | never (expression : String)
deriving DecidableEq, Repr

/-- Reads an expression and works out its pattern. -/
def CompiledFilter.ofText? (expression : String) : Except FilterFault CompiledFilter :=
  (Filter.ofText? expression).bind Filter.compile

namespace Predicate

/-- The predicate of an expression. -/
def ofText (expression : String) : Predicate :=
  match CompiledFilter.ofText? expression with
  | .ok c => compiled c
  | .error _ => never expression

/-- Whether the expression can be used. -/
def isValid : Predicate → Bool
  | compiled _ => true
  | never _ => false

/-- Whether the predicate admits a service. -/
def admits : Predicate → Identity → Bool
  | compiled c, i => c.admits i
  | never _, _ => false

end Predicate

/-- Whether an expression admits a service. -/
def expressionAdmits (expression : String) (i : Identity) : Bool := (Predicate.ofText expression).admits i

/-- The predicates of a selection. -/
structure FilterSet where
  inclusions : List Predicate
  exclusions : List Predicate
deriving DecidableEq, Repr

namespace FilterSet

/-- The selection that two lists of expressions describe. -/
def ofTexts (inclusions exclusions : List String) : FilterSet :=
  ⟨inclusions.map .ofText, exclusions.map .ofText⟩

/-- Whether every inclusion admits the service. -/
def includes (s : FilterSet) (i : Identity) : Bool := s.inclusions.all (·.admits i)

/-- Whether some exclusion admits the service. -/
def excludes (s : FilterSet) (i : Identity) : Bool := s.exclusions.any (·.admits i)

/-- Whether the service is kept. -/
def admits (s : FilterSet) (i : Identity) : Bool := s.includes i && !s.excludes i

/-- The services that are kept, in their order. -/
def apply (s : FilterSet) (services : List Identity) : List Identity :=
  (services.filter s.includes).filter (!s.excludes ·)

/-- The services that every inclusion admits and some exclusion too, in their order. -/
def dropped (s : FilterSet) (services : List Identity) : List Identity :=
  (services.filter s.includes).filter s.excludes

end FilterSet

/-- The services that two lists of expressions select, in their order. -/
def selectServices (services : List Identity) (inclusions exclusions : List String) : List Identity :=
  (FilterSet.ofTexts inclusions exclusions).apply services

end GatewayRegistrar
