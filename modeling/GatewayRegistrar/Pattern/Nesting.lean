import GatewayRegistrar.Pattern.Fault
import GatewayRegistrar.Pattern.Tree

/-!
# How deep a pattern nests

Groups, repetitions, choices, sequences and classes may stand in one another up to a fixed depth only. The place
reported is that of the first part, from the left, that lies too deep (`Tree.tooDeep?`).
-/

namespace GatewayRegistrar.Pattern

/-- How many parts may stand in one another. -/
def nestLimit : Nat := 250

/-- The place, if this part is one too many. -/
def spanBeyond? (depth : Nat) (span : Span) : Option Span := if nestLimit ≤ depth then some span else none

mutual

/-- The place of the first part of a class that lies too deep, with `depth` parts around the class. -/
def ClassTree.tooDeep? (depth : Nat) : ClassTree → Option Span
  | .bracketed span _ body => (spanBeyond? depth span).or (body.tooDeep? (depth + 1))
  | .union span items => (spanBeyond? depth span).or (classesTooDeep? (depth + 1) items)
  | .combined span _ left right =>
    (spanBeyond? depth span).or ((left.tooDeep? (depth + 1)).or (right.tooDeep? (depth + 1)))
  | _ => none

/-- The place of the first part of several classes that lies too deep. -/
def classesTooDeep? (depth : Nat) : List ClassTree → Option Span
  | [] => none
  | t :: rest => (t.tooDeep? depth).or (classesTooDeep? depth rest)

end

mutual

/-- The place of the first part of a pattern that lies too deep, with `depth` parts around the pattern. -/
def Tree.tooDeep? (depth : Nat) : Tree → Option Span
  | .bracketed span _ body => (spanBeyond? depth span).or (body.tooDeep? (depth + 1))
  | .repetition span _ _ body => (spanBeyond? depth span).or (body.tooDeep? (depth + 1))
  | .capture span body => (spanBeyond? depth span).or (body.tooDeep? (depth + 1))
  | .group span _ body => (spanBeyond? depth span).or (body.tooDeep? (depth + 1))
  | .alternation span branches => (spanBeyond? depth span).or (treesTooDeep? (depth + 1) branches)
  | .concat span parts => (spanBeyond? depth span).or (treesTooDeep? (depth + 1) parts)
  | _ => none

/-- The place of the first part of several patterns that lies too deep. -/
def treesTooDeep? (depth : Nat) : List Tree → Option Span
  | [] => none
  | t :: rest => (t.tooDeep? depth).or (treesTooDeep? depth rest)

end

/-- The fault of a pattern that nests too deep. -/
def Tree.nestFault? (t : Tree) : Option Fault :=
  (t.tooDeep? 0).map fun span => ⟨.nestLimitExceeded nestLimit, span⟩

end GatewayRegistrar.Pattern
