import GatewayRegistrar.Pattern.Classes
import GatewayRegistrar.Pattern.Node

/-!
# From a written pattern to what it asks for

Flags are worked out from left to right: they hold from where they are set up to the end of the group around them, also
behind a bar.
-/

namespace GatewayRegistrar.Pattern

namespace Flags

/-- What a literal asks for. -/
def literalNode (f : Flags) (l : Literal) : Except Fault Node := do
  let c ← f.literal l
  return .symbol (f.folded (.singleton c))

/-- What a dot asks for. -/
def dotNode (f : Flags) (span : Span) : Except Fault Node :=
  if !f.unicode then .error ⟨.invalidEncoding, span⟩
  else if f.dotMatchesNewline then .ok (.symbol .all)
  else if f.carriageReturn then .ok (.symbol (CodeSet.ofRanges [⟨0x0A, 0x0A⟩, ⟨0x0D, 0x0D⟩]).complement)
  else .ok (.symbol (CodeSet.singleton '\n').complement)

/-- The condition that an assertion states. -/
def look (f : Flags) : Assertion → Look
  | .startLine => if f.multiLine then .startLine f.carriageReturn else .startText
  | .endLine => if f.multiLine then .endLine f.carriageReturn else .endText
  | .startText => .startText
  | .endText => .endText
  | .wordBoundary => .word .boundary f.unicode
  | .notWordBoundary => .word .inside f.unicode
  | .wordStart => .word .start f.unicode
  | .wordEnd => .word .stop f.unicode
  | .wordStartHalf => .word .startHalf f.unicode
  | .wordEndHalf => .word .stopHalf f.unicode

end Flags

mutual

/-- What a pattern asks for under the given flags, and the flags that hold behind it. -/
def Tree.meaning (f : Flags) : Tree → Except Fault (Node × Flags)
  | .empty _ => .ok (.empty, f)
  | .flags _ items => .ok (.empty, f.with items)
  | .literal l => do
    let n ← f.literalNode l
    return (n, f)
  | .dot span => do
    let n ← f.dotNode span
    return (n, f)
  | .assertion _ kind => .ok (.look (f.look kind), f)
  | .short span negate kind => do
    let s ← f.short span negate kind
    return (.symbol s, f)
  | .property span negate query => do
    let s ← f.property span negate query
    return (.symbol s, f)
  | .bracketed span negate body => do
    let s ← f.members body
    let s ← f.negated span negate (f.folded s)
    return (.symbol s, f)
  | .repetition _ least most body => do
    let (n, f) ← body.meaning f
    return (.repetition least most n, f)
  | .capture _ body => do
    let (n, _) ← body.meaning f
    return (.capture n, f)
  | .group _ items body => do
    let (n, _) ← body.meaning (f.with items)
    return (.group n, f)
  | .alternation _ branches => do
    let (ns, f) ← meanings f branches
    return (.oneOf ns, f)
  | .concat _ parts => do
    let (ns, f) ← meanings f parts
    return (.concat ns, f)

/-- What several patterns ask for, each under the flags that hold behind the one before it. -/
def meanings (f : Flags) : List Tree → Except Fault (List Node × Flags)
  | [] => .ok ([], f)
  | t :: rest => do
    let (n, f) ← t.meaning f
    let (ns, f) ← meanings f rest
    return (n :: ns, f)

end

end GatewayRegistrar.Pattern
