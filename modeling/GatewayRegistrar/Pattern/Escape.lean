import GatewayRegistrar.Pattern.Cursor
import GatewayRegistrar.Pattern.Tree
import GatewayRegistrar.Unicode.Category
import GatewayRegistrar.Unicode.Property

/-!
# Single characters and escapes in a pattern
-/

namespace GatewayRegistrar.Pattern

open Scan

/-- A part of a pattern that may also stand in brackets, or looks as if it might. -/
inductive Primitive where
  | literal (l : Literal)
  | assertion (span : Span) (kind : Assertion)
  | dot (span : Span)
  | short (span : Span) (negated : Bool) (kind : ShortClass)
  | property (span : Span) (negated : Bool) (query : PropertyQuery)

namespace Primitive

/-- The place of the part. -/
def span : Primitive → Span
  | assertion s _ | dot s | short s _ _ | property s _ _ => s
  | literal l => l.span

/-- The part as a pattern. -/
def tree : Primitive → Tree
  | literal l => .literal l
  | assertion s kind => .assertion s kind
  | dot s => .dot s
  | short s negated kind => .short s negated kind
  | property s negated query => .property s negated query

/-- The part as it stands in brackets. -/
def classTree : Primitive → Scan ClassTree
  | literal l => return .literal l
  | short s negated kind => return .short s negated kind
  | property s negated query => return .property s negated query
  | p => fail p.span .classEscapeInvalid

/-- The part as the end of a range. -/
def rangeEnd : Primitive → Scan Literal
  | literal l => return l
  | p => fail p.span .classRangeLiteral

end Primitive

/-- The signs that have a meaning in patterns. -/
def metaCharacters : List Char :=
  ['\\', '.', '+', '*', '?', '(', ')', '|', '[', ']', '{', '}', '^', '$', '#', '&', '-', '~']

/-- Whether a character stands for itself behind a backslash. -/
def isEscapable (c : Char) : Bool :=
  c ∈ metaCharacters || (c.toNat < 0x80 && !c.isAlphanum && c != '<' && c != '>')

/-- The value of a hexadecimal digit. -/
def hexValue? (c : Char) : Option Nat :=
  if c.isDigit then some (c.toNat - '0'.toNat)
  else if 'a' ≤ c ∧ c ≤ 'f' then some (c.toNat - 'a'.toNat + 10)
  else if 'A' ≤ c ∧ c ≤ 'F' then some (c.toNat - 'A'.toNat + 10)
  else none

/-- The character with a code; `none` when there is no such character. -/
def charOfCode? (n : Nat) : Option Char :=
  if n < 0xD800 ∨ (0xDFFF < n ∧ n ≤ 0x10FFFF) then some (Char.ofNat n) else none

/-- The digits of an escape of fixed width, the first of which is behind the cursor. -/
def fixedHex : Nat → Bool → Nat → Scan Nat
  | 0, _, value => return value
  | n + 1, isFirst, value => do
    if !isFirst then
      if !(← bumpSkip) then return ← fail (← here) .escapeUnexpectedEnd
    let c := (← peek).getD ' '
    match hexValue? c with
    | none => fail (← hereChar) .escapeHexInvalidDigit
    | some d => fixedHex n false (value * 16 + d)

/-- The digits up to the closing brace; the first argument bounds their number. -/
def bracedHex : Nat → List Nat → Scan (List Nat)
  | 0, digits => return digits
  | n + 1, digits => do
    let more ← bumpSkip
    let c := (← peek).getD '}'
    if !more || c == '}' then return digits
    match hexValue? c with
    | none => fail (← hereChar) .escapeHexInvalidDigit
    | some d => bracedHex n (digits ++ [d])

/-- A character written by its code, with the cursor on the letter behind the backslash. -/
def hexEscape (start : Position) (width : Nat) : Scan Literal := do
  if !(← bumpSkip) then return ← fail (← here) .escapeUnexpectedEnd
  if (← peek) == some '{' then
    let brace ← position
    let first := (← hereChar).last
    let digits ← bracedHex (← get).rest.length []
    if (← peek).isNone then return ← fail ⟨brace, ← position⟩ .escapeUnexpectedEnd
    let last ← position
    let _ ← bumpSkip
    if digits.isEmpty then return ← fail ⟨brace, ← position⟩ .escapeHexEmpty
    match charOfCode? (digits.foldl (fun n d => n * 16 + d) 0) with
    | none => fail ⟨first, last⟩ .escapeHexInvalid
    | some c => return { span := ⟨start, ← position⟩, char := c }
  else
    let first ← position
    let value ← fixedHex width true 0
    let _ ← bumpSkip
    match charOfCode? value with
    | none => fail ⟨first, ← position⟩ .escapeHexInvalid
    | some c => return { span := ⟨start, ← position⟩, char := c, isByte := width == 2 }

/-- The characters up to the closing brace; the first argument bounds their number. -/
def bracedName : Nat → List Char → Scan (List Char)
  | 0, name => return name
  | n + 1, name => do
    let more ← bumpSkip
    let c := (← peek).getD '}'
    if !more || c == '}' then return name
    bracedName n (name ++ [c])

/-- The two sides of the first occurrence of `sep`. -/
def cutAt? (sep : List Char) : List Char → Option (List Char × List Char)
  | [] => none
  | c :: cs =>
    match dropStart? sep (c :: cs) with
    | some rest => some ([], rest)
    | none => (cutAt? sep cs).map fun (before, rest) => (c :: before, rest)

/-- The property that a name in braces asks for, and whether the characters without it are meant. -/
def propertyQuery (name : List Char) : Bool × PropertyQuery :=
  let valued (p : List Char × List Char) := PropertyQuery.valued (String.ofList p.1) (String.ofList p.2)
  match cutAt? ['!', '='] name, cutAt? [':'] name, cutAt? ['='] name with
  | some p, _, _ => (true, valued p)
  | none, some p, _ => (false, valued p)
  | none, none, some p => (false, valued p)
  | none, none, none => (false, .named (String.ofList name))

/-- A class of characters with a property, with the cursor on the letter behind the backslash. -/
def propertyEscape (start : Position) : Scan Primitive := do
  let negated := (← peek) == some 'P'
  if !(← bumpSkip) then return ← fail (← here) .escapeUnexpectedEnd
  match ← peek with
  | some '{' =>
    let name ← bracedName (← get).rest.length []
    if (← peek).isNone then return ← fail (← here) .escapeUnexpectedEnd
    let _ ← bump
    let (differs, query) := propertyQuery name
    return .property ⟨start, ← position⟩ (negated != differs) query
  | some '\\' => fail (← hereChar) .unicodeClassInvalid
  | c =>
    let _ ← bumpSkip
    return .property ⟨start, ← position⟩ negated (.letter (c.getD ' '))

/-- The characters in the name of a special word boundary. -/
def isBoundaryNameChar (c : Char) : Bool := c.isAlpha || c == '-'

/-- The name of a special word boundary; the first argument bounds its length. -/
def boundaryName : Nat → List Char → Scan (List Char)
  | 0, name => return name
  | n + 1, name => do
    match ← peek with
    | some c =>
      if isBoundaryNameChar c then
        let _ ← bumpSkip
        boundaryName n (name ++ [c])
      else return name
    | none => return name

/-- The kind of a special word boundary, with the cursor on the brace behind `\b`. Braces that hold no name are left
for a repetition. -/
def specialBoundary (start : Position) : Scan (Option Assertion) := do
  let before ← get
  if !(← bumpSkip) then return ← fail ⟨start, ← position⟩ .wordBoundaryUnexpectedEnd
  let first ← position
  if !((← peek).any isBoundaryNameChar) then
    set before
    return none
  let name ← boundaryName (← get).rest.length []
  if (← peek) != some '}' then return ← fail ⟨before.position, ← position⟩ .wordBoundaryUnclosed
  let last ← position
  let _ ← bump
  match String.ofList name with
  | "start" => return some .wordStart
  | "end" => return some .wordEnd
  | "start-half" => return some .wordStartHalf
  | "end-half" => return some .wordEndHalf
  | _ => fail ⟨first, last⟩ .wordBoundaryUnrecognized

/-- The character that a letter behind a backslash stands for. -/
def controlLetter? : Char → Option Char
  | 'a' => some '\x07'
  | 'f' => some '\x0c'
  | 't' => some '\t'
  | 'n' => some '\n'
  | 'r' => some '\r'
  | 'v' => some '\x0b'
  | _ => none

/-- What a backslash and one sign stand for, once the cursor is behind them. -/
def signEscape (span : Span) (c : Char) : Scan Primitive := do
  if isEscapable c then return .literal { span, char := c }
  match controlLetter? c with
  | some x => return .literal { span, char := x }
  | none =>
    match c with
    | 'A' => return .assertion span .startText
    | 'z' => return .assertion span .endText
    | 'b' =>
      if (← peek) == some '{' then
        match ← specialBoundary span.first with
        | some kind => return .assertion ⟨span.first, ← position⟩ kind
        | none => return .assertion span .wordBoundary
      else return .assertion span .wordBoundary
    | 'B' => return .assertion span .notWordBoundary
    | '<' => return .assertion span .wordStart
    | '>' => return .assertion span .wordEnd
    | _ => fail span .escapeUnrecognized

/-- What a backslash begins. -/
def escape : Scan Primitive := do
  let start ← position
  if !(← bump) then return ← fail ⟨start, ← position⟩ .escapeUnexpectedEnd
  let c := (← peek).getD ' '
  let shortClass (negated : Bool) (kind : ShortClass) : Scan Primitive := do
    let _ ← bump
    return .short ⟨start, ← position⟩ negated kind
  match c with
  | 'x' => return .literal (← hexEscape start 2)
  | 'u' => return .literal (← hexEscape start 4)
  | 'U' => return .literal (← hexEscape start 8)
  | 'p' | 'P' => propertyEscape start
  | 'd' => shortClass false .digit
  | 'D' => shortClass true .digit
  | 's' => shortClass false .space
  | 'S' => shortClass true .space
  | 'w' => shortClass false .word
  | 'W' => shortClass true .word
  | _ =>
    if c.isDigit then fail ⟨start, (← hereChar).last⟩ .unsupportedBackreference
    else
      let _ ← bump
      signEscape ⟨start, ← position⟩ c

/-- A part of a pattern that is neither a group, a class in brackets nor an operator. -/
def primitive : Scan Primitive := do
  let span ← hereChar
  match ← peek with
  | some '\\' => escape
  | some c =>
    let _ ← bump
    match c with
    | '.' => return .dot span
    | '^' => return .assertion span .startLine
    | '$' => return .assertion span .endLine
    | _ => return .literal { span, char := c }
  | none => fail span .escapeUnexpectedEnd

end GatewayRegistrar.Pattern
