import GatewayRegistrar.Pattern.Meaning
import GatewayRegistrar.Pattern.Nesting
import GatewayRegistrar.Pattern.Reader
import GatewayRegistrar.Pattern.Search
import GatewayRegistrar.Pattern.Size

/-!
# Patterns

A pattern that has been read, worked out and found small enough can be searched for in texts.
-/

namespace GatewayRegistrar

/-- A pattern that can be searched for. -/
structure Pattern where
  source : String
  node : Pattern.Node
deriving DecidableEq, Repr

namespace Pattern

/-- Why a text is no pattern. -/
inductive Refusal where
  | fault (source : String) (f : Fault)
  | tooLarge
deriving DecidableEq, Repr

/-- The reason in words. -/
def Refusal.message : Refusal → String
  | fault source f => f.report source
  | tooLarge => "Compiled regex exceeds size limit of " ++ toString roomLimit ++ " bytes."

/-- What a text asks for, as a pattern. -/
def nodeOfText? (source : String) : Except Fault Node := do
  let tree ← Tree.ofText? source.toList
  match tree.nestFault? with
  | some f => throw f
  | none =>
    let (node, _) ← tree.meaning {}
    return node

/-- The pattern that a text writes. -/
def ofText? (source : String) : Except Refusal Pattern :=
  match nodeOfText? source with
  | .error f => .error (.fault source f)
  | .ok node => if node.fits then .ok ⟨source, node⟩ else .error .tooLarge

/-- Whether the pattern matches anywhere in a text. -/
def matchesIn (p : Pattern) (text : String) : Bool := p.node.matchesIn text

end Pattern

end GatewayRegistrar
