import GatewayRegistrar.Pattern.Fault
import GatewayRegistrar.Text.Blank

/-!
# Moving through a pattern

A cursor stands between two characters of a pattern. In the verbose mode blanks and comments between the parts of a
pattern are passed over.
-/

namespace GatewayRegistrar.Pattern

/-- The rest of a pattern, the place where it begins, whether blanks and comments are passed over, and the names of
the groups so far. -/
structure Cursor where
  rest : List Char
  position : Position
  verbose : Bool
  names : List (List Char × Span)

/-- A step of reading a pattern. -/
abbrev Scan (α : Type) := StateT Cursor (Except Fault) α

namespace Scan

/-- Stops with a fault. -/
def fail {α : Type} (span : Span) (kind : FaultKind) : Scan α := throw ⟨kind, span⟩

/-- The place of the cursor. -/
def position : Scan Position := do return (← get).position

/-- The character behind the cursor. -/
def peek : Scan (Option Char) := do return (← get).rest.head?

/-- The empty span at the cursor. -/
def here : Scan Span := do return .empty (← position)

/-- The span of the character behind the cursor. -/
def hereChar : Scan Span := do
  let c ← get
  match c.rest with
  | [] => return .empty c.position
  | x :: _ => return ⟨c.position, c.position.past x⟩

/-- The cursor behind the next character. -/
def pastNext (c : Cursor) : Cursor :=
  match c.rest with
  | [] => c
  | x :: rest => { c with rest, position := c.position.past x }

/-- Moves past one character; whether another one follows. -/
def bump : Scan Bool := do
  modify pastNext
  return (← peek).isSome

/-- The cursor behind the line that it stands in. -/
def pastLine : List Char → Position → List Char × Position
  | [], p => ([], p)
  | c :: rest, p => if c = '\n' then (rest, p.past c) else pastLine rest (p.past c)

/-- The cursor behind blanks and comments; the first argument bounds the steps. -/
def pastBlanks : Nat → List Char → Position → List Char × Position
  | 0, cs, p => (cs, p)
  | _, [], p => ([], p)
  | n + 1, c :: rest, p =>
    if isBlank c then pastBlanks n rest (p.past c)
    else if c = '#' then
      let (rest, p) := pastLine rest (p.past c)
      pastBlanks n rest p
    else (c :: rest, p)

/-- Moves past blanks and comments in the verbose mode. -/
def skipBlanks : Scan Unit := modify fun c =>
  if c.verbose then
    let (rest, position) := pastBlanks c.rest.length c.rest c.position
    { c with rest, position }
  else c

/-- Moves past one character, and past blanks and comments in the verbose mode; whether a character follows. -/
def bumpSkip : Scan Bool := do
  let _ ← bump
  skipBlanks
  return (← peek).isSome

/-- Moves past `text` if it follows. -/
def bumpIf (text : String) : Scan Bool := do
  let c ← get
  if startsWith text.toList c.rest then
    set (text.toList.foldl (fun c _ => pastNext c) c)
    return true
  else return false

/-- The first character that is neither a blank nor the first number sign. -/
def firstVisible (signSeen : Bool) : List Char → Option Char
  | [] => none
  | c :: rest =>
    if isBlank c then firstVisible signSeen rest
    else if c = '#' ∧ !signSeen then firstVisible true rest
    else some c

/-- The character after the one behind the cursor; in the verbose mode the first one that is no blank, where a number
sign is passed over too. -/
def peekSecondVisible : Scan (Option Char) := do
  let c ← get
  if c.verbose then
    return (firstVisible false c.rest.tail).orElse fun _ => c.rest.tail.head?
  else return c.rest.tail.head?

end Scan

end GatewayRegistrar.Pattern
