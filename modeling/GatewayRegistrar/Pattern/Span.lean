/-!
# Positions in a pattern

Faults in a pattern are reported with the place where they stand. Lines and columns are counted from one, and columns
count characters.
-/

namespace GatewayRegistrar.Pattern

/-- A place between the characters of a pattern. -/
structure Position where
  offset : Nat
  line : Nat
  column : Nat
deriving DecidableEq, Repr, Inhabited

/-- The place before the first character. -/
def Position.start : Position := ⟨0, 1, 1⟩

/-- The place behind a character that stands at this place. -/
def Position.past (p : Position) (c : Char) : Position :=
  if c = '\n' then ⟨p.offset + 1, p.line + 1, 1⟩ else ⟨p.offset + 1, p.line, p.column + 1⟩

/-- The characters between two places. -/
structure Span where
  first : Position
  last : Position
deriving DecidableEq, Repr, Inhabited

namespace Span

/-- The empty span at a place. -/
def empty (p : Position) : Span := ⟨p, p⟩

/-- Whether the span begins and ends on one line. -/
def onOneLine (s : Span) : Bool := s.first.line == s.last.line

/-- The order of spans by their beginnings, and then by their ends. -/
def le (s t : Span) : Bool :=
  s.first.offset < t.first.offset || (s.first.offset == t.first.offset && s.last.offset ≤ t.last.offset)

end Span

end GatewayRegistrar.Pattern
