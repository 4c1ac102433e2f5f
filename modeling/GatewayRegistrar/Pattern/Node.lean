import GatewayRegistrar.Unicode.CodeSet

/-!
# What a pattern asks for

A node is a pattern once flags, escapes and classes have been worked out: sets of characters, conditions on places,
and ways to combine them.
-/

namespace GatewayRegistrar.Pattern

/-- A condition on the characters on both sides of a place, in terms of which of them belong to words. -/
inductive WordEdge where
  | boundary
  | inside
  | start
  | stop
  | startHalf
  | stopHalf
deriving DecidableEq, Repr

/-- A condition on a place. The argument of the line conditions says whether a carriage return ends a line too, the
one of the word condition whether words are made of all letters or of those of ASCII only. -/
inductive Look where
  | startText
  | endText
  | startLine (carriageReturn : Bool)
  | endLine (carriageReturn : Bool)
  | word (edge : WordEdge) (unicode : Bool)
deriving DecidableEq, Repr

/-- What a pattern asks for. A group keeps its alternatives apart from those around it. -/
inductive Node where
  | empty
  | symbol (s : CodeSet)
  | look (l : Look)
  | repeated (least : Nat) (most : Option Nat) (body : Node)
  | capture (body : Node)
  | group (body : Node)
  | sequence (first second : Node)
  | choice (first second : Node)
deriving DecidableEq, Repr

namespace Node

/-- Whether the node asks for no characters at all, so that only the empty text can match. -/
def onlyEmpty : Node → Bool
  | empty | look _ => true
  | symbol _ => false
  | repeated _ most body => most = some 0 || body.onlyEmpty
  | capture body | group body => body.onlyEmpty
  | sequence a b | choice a b => a.onlyEmpty && b.onlyEmpty

/-- A repetition. Repeating the empty text more than once adds nothing, and repeating once is no repetition. -/
def repetition (least : Nat) (most : Option Nat) (body : Node) : Node :=
  let least := if body.onlyEmpty then min least 1 else least
  let most := if body.onlyEmpty then some (min (most.getD 1) 1) else most
  if most = some 0 then .empty
  else if least = 1 ∧ most = some 1 then body
  else .repeated least most body

/-- Several nodes, one behind the other. -/
def concat : List Node → Node
  | [] => .empty
  | [n] => n
  | n :: rest => .sequence n (concat rest)

/-- One of several nodes. -/
def oneOf : List Node → Node
  | [] => .symbol .empty
  | [n] => n
  | n :: rest => .choice n (oneOf rest)

end Node

end GatewayRegistrar.Pattern
