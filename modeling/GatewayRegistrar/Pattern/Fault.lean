import GatewayRegistrar.Pattern.Span
import GatewayRegistrar.Text.Cut
import GatewayRegistrar.Decimal.Shortest

/-!
# Faults in patterns

What can be wrong with a pattern, and the report of it: the pattern, carets under the place of the fault, and the
reason.
-/

namespace GatewayRegistrar.Pattern

/-- What is wrong at a place of a pattern. A second place is given where the fault lies between two. -/
inductive FaultKind where
  | classEscapeInvalid
  | classRangeInvalid
  | classRangeLiteral
  | classUnclosed
  | decimalEmpty
  | decimalInvalid
  | escapeHexEmpty
  | escapeHexInvalid
  | escapeHexInvalidDigit
  | escapeUnexpectedEnd
  | escapeUnrecognized
  | flagDanglingNegation
  | flagDuplicate (earlier : Span)
  | flagRepeatedNegation (earlier : Span)
  | flagUnexpectedEnd
  | flagUnrecognized
  | groupNameDuplicate (earlier : Span)
  | groupNameEmpty
  | groupNameInvalid
  | groupNameUnexpectedEnd
  | groupUnclosed
  | groupUnopened
  | nestLimitExceeded (limit : Nat)
  | repetitionCountInvalid
  | repetitionCountDecimalEmpty
  | repetitionCountUnclosed
  | repetitionMissing
  | wordBoundaryUnclosed
  | wordBoundaryUnrecognized
  | wordBoundaryUnexpectedEnd
  | unicodeClassInvalid
  | unsupportedBackreference
  | unsupportedLookAround
  | unicodeNotAllowed
  | invalidEncoding
  | propertyNotFound
  | propertyValueNotFound
deriving DecidableEq, Repr

namespace FaultKind

/-- The reason in words. -/
def reason : FaultKind → String
  | classEscapeInvalid => "invalid escape sequence found in character class"
  | classRangeInvalid => "invalid character class range, the start must be <= the end"
  | classRangeLiteral => "invalid range boundary, must be a literal"
  | classUnclosed => "unclosed character class"
  | decimalEmpty => "decimal literal empty"
  | decimalInvalid => "decimal literal invalid"
  | escapeHexEmpty => "hexadecimal literal empty"
  | escapeHexInvalid => "hexadecimal literal is not a Unicode scalar value"
  | escapeHexInvalidDigit => "invalid hexadecimal digit"
  | escapeUnexpectedEnd => "incomplete escape sequence, reached end of pattern prematurely"
  | escapeUnrecognized => "unrecognized escape sequence"
  | flagDanglingNegation => "dangling flag negation operator"
  | flagDuplicate _ => "duplicate flag"
  | flagRepeatedNegation _ => "flag negation operator repeated"
  | flagUnexpectedEnd => "expected flag but got end of regex"
  | flagUnrecognized => "unrecognized flag"
  | groupNameDuplicate _ => "duplicate capture group name"
  | groupNameEmpty => "empty capture group name"
  | groupNameInvalid => "invalid capture group character"
  | groupNameUnexpectedEnd => "unclosed capture group name"
  | groupUnclosed => "unclosed group"
  | groupUnopened => "unopened group"
  | nestLimitExceeded limit => "exceed the maximum number of nested parentheses/brackets (" ++ toString limit ++ ")"
  | repetitionCountInvalid => "invalid repetition count range, the start must be <= the end"
  | repetitionCountDecimalEmpty => "repetition quantifier expects a valid decimal"
  | repetitionCountUnclosed => "unclosed counted repetition"
  | repetitionMissing => "repetition operator missing expression"
  | wordBoundaryUnclosed =>
    "special word boundary assertion is either unclosed or contains an invalid character"
  | wordBoundaryUnrecognized =>
    "unrecognized special word boundary assertion, valid choices are: start, end, start-half or end-half"
  | wordBoundaryUnexpectedEnd =>
    "found either the beginning of a special word boundary or a bounded repetition on a \\b with an opening brace, "
      ++ "but no closing brace"
  | unicodeClassInvalid => "invalid Unicode character class"
  | unsupportedBackreference => "backreferences are not supported"
  | unsupportedLookAround => "look-around, including look-ahead and look-behind, is not supported"
  | unicodeNotAllowed => "Unicode not allowed here"
  | invalidEncoding => "pattern can match invalid UTF-8"
  | propertyNotFound => "Unicode property not found"
  | propertyValueNotFound => "Unicode property value not found"

/-- The other place that the fault refers to. -/
def earlier? : FaultKind → Option Span
  | flagDuplicate s | flagRepeatedNegation s | groupNameDuplicate s => some s
  | _ => none

end FaultKind

/-- A fault and its place. -/
structure Fault where
  kind : FaultKind
  span : Span
deriving DecidableEq, Repr

namespace Fault

/-- The places to be shown, in their order. -/
def spans (f : Fault) : List Span :=
  match f.kind.earlier? with
  | none => [f.span]
  | some s => if s.le f.span then [s, f.span] else [f.span, s]

/-- Carets under the columns of the spans, from the column behind `done` on. -/
def carets (done : Nat) : List Span → List Char
  | [] => []
  | s :: rest =>
    let width := max 1 (s.last.column - s.first.column)
    let gap := s.first.column - 1 - done
    List.replicate gap ' ' ++ List.replicate width '^' ++ carets (done + gap + width) rest

/-- The lines of the pattern, each followed by a line of carets where a span lies on it. With more than one line each
has its number in front. -/
def markedLines (pattern : List Char) (spans : List Span) : List (List Char) :=
  let lines := linesOf pattern
  let count := lines.length + (if pattern.getLast? = some '\n' then 1 else 0)
  let width := if count ≤ 1 then 0 else (decimalText count).length
  let margin := if width = 0 then 4 else width + 2
  (lines.zipIdx 1).flatMap fun (line, n) =>
    let number := decimalText n
    let head :=
      if width = 0 then List.replicate 4 ' '
      else List.replicate (width - number.length) ' ' ++ number ++ [':', ' ']
    let here := spans.filter fun s => s.onOneLine && s.first.line == n
    (head ++ line) :: (if here.isEmpty then [] else [List.replicate margin ' ' ++ carets 0 here])

/-- The note for a span that reaches over several lines. -/
def lineNote (s : Span) : String :=
  "on line " ++ toString s.first.line ++ " (column " ++ toString s.first.column ++ ") through line "
    ++ toString s.last.line ++ " (column " ++ toString (s.last.column - 1) ++ ")"

/-- The report of a fault in a pattern. -/
def report (pattern : String) (f : Fault) : String :=
  let chars := pattern.toList
  let marked := (markedLines chars f.spans).map fun line => String.ofList line ++ "\n"
  if chars.contains '\n' then
    let ruler := String.ofList (List.replicate 79 '~') ++ "\n"
    let notes := (f.spans.filter (!·.onOneLine)).map lineNote
    "regex parse error:\n" ++ ruler ++ String.join marked ++ ruler
      ++ (if notes.isEmpty then "" else "\n".intercalate notes ++ "\n") ++ "error: " ++ f.kind.reason
  else "regex parse error:\n" ++ String.join marked ++ "error: " ++ f.kind.reason

end Fault

end GatewayRegistrar.Pattern
