import GatewayRegistrar.Pattern.Node

/-!
# Blueprints

The blueprint of a node is what an automaton for it is built from. It is simpler than the node: characters that stand
side by side are one text, a choice between single characters is a set, and what all branches of a choice begin with
stands once before it.
-/

namespace GatewayRegistrar.Pattern

/-- What an automaton is built from. A text is not empty, and a set has no single member; sequences and choices have at
least two parts, none of which is a sequence or a choice, respectively. -/
inductive Blueprint where
  | empty
  | text (cs : List Char)
  | set (s : CodeSet)
  | look (l : Look)
  | repeated (least : Nat) (most : Option Nat) (body : Blueprint)
  | capture (body : Blueprint)
  | sequence (parts : List Blueprint)
  | choice (branches : List Blueprint)
deriving Repr, Inhabited

namespace Blueprint

mutual

/-- Whether two blueprints are the same. Captures never are, because each of them is remembered apart. -/
def same : Blueprint → Blueprint → Bool
  | empty, empty => true
  | text a, text b => a == b
  | set a, set b => a == b
  | look a, look b => a == b
  | repeated least most body, repeated least' most' body' => least == least' && most == most' && body.same body'
  | sequence ps, sequence qs => allSame ps qs
  | choice ps, choice qs => allSame ps qs
  | _, _ => false

/-- Whether two lists of blueprints are the same. -/
def allSame : List Blueprint → List Blueprint → Bool
  | [], [] => true
  | p :: ps, q :: qs => p.same q && allSame ps qs
  | _, _ => false

end

/-! ## Sequences -/

/-- A set of characters. -/
def ofSet (s : CodeSet) : Blueprint :=
  match s.ranges with
  | [r] => if r.first = r.last then .text [Char.ofNat r.first] else .set s
  | _ => .set s

/-- What stands in a row. -/
def parts : Blueprint → List Blueprint
  | empty => []
  | sequence ps => ps
  | b => [b]

/-- Joins the texts that stand side by side. -/
def joinTexts : List Blueprint → List Blueprint
  | [] => []
  | text a :: rest =>
    match joinTexts rest with
    | text b :: more => text (a ++ b) :: more
    | more => text a :: more
  | b :: rest => b :: joinTexts rest

/-- Several blueprints, one behind the other. -/
def inSequence (bs : List Blueprint) : Blueprint :=
  match joinTexts (bs.flatMap parts) with
  | [] => .empty
  | [b] => b
  | ps => .sequence ps

/-! ## Choices -/

/-- What there is to choose from. -/
def branches : Blueprint → List Blueprint
  | choice bs => bs
  | b => [b]

/-- The characters that a blueprint for single characters stands for. -/
def characters? : Blueprint → Option CodeSet
  | text [c] => some (.singleton c)
  | set s => some s
  | _ => none

/-- What a sequence consists of. -/
def sequenceParts? : Blueprint → Option (List Blueprint)
  | sequence ps => some ps
  | _ => none

/-- What two lists begin with alike. -/
def sharedStart : List Blueprint → List Blueprint → List Blueprint
  | p :: ps, q :: qs => if p.same q then p :: sharedStart ps qs else []
  | _, _ => []

/-- One of several blueprints, which need not begin alike. -/
def oneOfApart (bs : List Blueprint) : Blueprint :=
  match bs.flatMap branches with
  | [] => .set .empty
  | [b] => b
  | bs =>
    match bs.mapM characters? with
    | some sets => ofSet (sets.foldl .union .empty)
    | none => .choice bs

/-- One of several blueprints. Sequences that begin alike share their beginning. -/
def oneOf (bs : List Blueprint) : Blueprint :=
  match oneOfApart bs with
  | choice bs =>
    match bs.mapM sequenceParts? with
    | some (first :: rest) =>
      let shared := rest.foldl sharedStart first
      if shared.isEmpty then .choice bs
      else
        let ends := (first :: rest).map fun ps => inSequence (ps.drop shared.length)
        inSequence (shared ++ [oneOfApart ends])
    | _ => .choice bs
  | b => b

/-! ## Properties -/

/-- Whether the blueprint stands for no characters at all. -/
def onlyEmpty : Blueprint → Bool
  | empty | look _ => true
  | text _ | set _ => false
  | repeated _ most body => most = some 0 || body.onlyEmpty
  | capture body => body.onlyEmpty
  | sequence bs | choice bs => allOnlyEmpty bs
where
  allOnlyEmpty : List Blueprint → Bool
    | [] => true
    | b :: bs => b.onlyEmpty && allOnlyEmpty bs

mutual

/-- Whether every match has characters; `none` when there is no match at all. -/
def needsText? : Blueprint → Option Bool
  | empty | look _ => some false
  | text _ => some true
  | set s => if s.isEmpty then none else some true
  | repeated least _ body => body.needsText?.map (0 < least && ·)
  | capture body => body.needsText?
  | sequence bs => (needTexts? bs).map (·.any id)
  | choice bs => (needTexts? bs).map (·.all id)

/-- Whether the matches of each blueprint have characters; `none` when one of them has no match. -/
def needTexts? : List Blueprint → Option (List Bool)
  | [] => some []
  | b :: bs => do
    let first ← b.needsText?
    let rest ← needTexts? bs
    return first :: rest

end

end Blueprint

/-! ## The blueprint of a node -/

mutual

/-- What an automaton for a node is built from. -/
def Node.blueprint : Node → Blueprint
  | .empty => .empty
  | .symbol s => .ofSet s
  | .look l => .look l
  | .repeated least most body => .repeated least most body.blueprint
  | .capture body => .capture body.blueprint
  | .group body => body.blueprint
  | .sequence a b => .inSequence [a.blueprint, b.blueprint]
  | .choice a b => .oneOf (a.blueprint :: b.alternatives)

/-- What there is to choose from behind a bar. -/
def Node.alternatives : Node → List Blueprint
  | .choice a b => a.blueprint :: b.alternatives
  | n => [n.blueprint]

end

end GatewayRegistrar.Pattern
