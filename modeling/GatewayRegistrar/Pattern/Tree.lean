import GatewayRegistrar.Pattern.Span

/-!
# Patterns as written

The form of a pattern, with the places of its parts. Whether a repetition is greedy and how groups are numbered makes
no difference to whether a pattern occurs in a text, so neither is kept.
-/

namespace GatewayRegistrar.Pattern

/-- A switch that changes how the rest of a group is read. -/
inductive Flag where
  | ignoreCase
  | multiLine
  | dotMatchesNewline
  | swapGreed
  | unicode
  | carriageReturn
  | verbose
deriving DecidableEq, Repr

/-- One sign between `(?` and the end of the flags. -/
inductive FlagItem where
  | negation
  | flag (f : Flag)
deriving DecidableEq, Repr

/-- The state to which the flags set one of them; `none` when they leave it alone. -/
def flagState? (f : Flag) : List FlagItem → Option Bool
  | [] => none
  | .flag g :: rest => if g = f then some true else flagState? f rest
  | .negation :: rest => if rest.contains (.flag f) then some false else none

/-- A character of a pattern. A character written with two hexadecimal digits may also stand for a byte. -/
structure Literal where
  span : Span
  char : Char
  isByte : Bool := false
deriving DecidableEq, Repr

/-- The classes with a letter of their own. -/
inductive ShortClass where
  | digit
  | space
  | word
deriving DecidableEq, Repr

/-- The classes that are named inside brackets. -/
inductive NamedClass where
  | alnum
  | alpha
  | ascii
  | blank
  | cntrl
  | digit
  | graph
  | lower
  | print
  | punct
  | space
  | upper
  | word
  | xdigit
deriving DecidableEq, Repr

/-- The property that a class asks for: by one letter, by a name, or by a name and a value. -/
inductive PropertyQuery where
  | letter (c : Char)
  | named (name : String)
  | valued (name value : String)
deriving DecidableEq, Repr

/-- How two classes in brackets are combined. -/
inductive ClassOperator where
  | intersection
  | difference
  | symmetricDifference
deriving DecidableEq, Repr

/-- What stands in brackets. -/
inductive ClassTree where
  | empty (span : Span)
  | literal (l : Literal)
  | range (span : Span) (first last : Literal)
  | named (span : Span) (negated : Bool) (kind : NamedClass)
  | short (span : Span) (negated : Bool) (kind : ShortClass)
  | property (span : Span) (negated : Bool) (query : PropertyQuery)
  | bracketed (span : Span) (negated : Bool) (body : ClassTree)
  | union (span : Span) (items : List ClassTree)
  | combined (span : Span) (operator : ClassOperator) (left right : ClassTree)
deriving Repr, Inhabited

/-- The place of what stands in brackets. -/
def ClassTree.span : ClassTree → Span
  | empty s | range s _ _ | named s _ _ | short s _ _ | property s _ _ | bracketed s _ _ | union s _
  | combined s _ _ _ => s
  | literal l => l.span

/-- A condition on a place of the text. -/
inductive Assertion where
  | startLine
  | endLine
  | startText
  | endText
  | wordBoundary
  | notWordBoundary
  | wordStart
  | wordEnd
  | wordStartHalf
  | wordEndHalf
deriving DecidableEq, Repr

/-- A pattern as written. -/
inductive Tree where
  | empty (span : Span)
  | flags (span : Span) (items : List FlagItem)
  | literal (l : Literal)
  | dot (span : Span)
  | assertion (span : Span) (kind : Assertion)
  | short (span : Span) (negated : Bool) (kind : ShortClass)
  | property (span : Span) (negated : Bool) (query : PropertyQuery)
  | bracketed (span : Span) (negated : Bool) (body : ClassTree)
  | repetition (span : Span) (least : Nat) (most : Option Nat) (body : Tree)
  | capture (span : Span) (body : Tree)
  | group (span : Span) (items : List FlagItem) (body : Tree)
  | alternation (span : Span) (branches : List Tree)
  | concat (span : Span) (parts : List Tree)
deriving Repr, Inhabited

/-- The place of a pattern. -/
def Tree.span : Tree → Span
  | empty s | flags s _ | dot s | assertion s _ | short s _ _ | property s _ _ | bracketed s _ _ | repetition s _ _ _
  | capture s _ | group s _ _ | alternation s _ | concat s _ => s
  | literal l => l.span

end GatewayRegistrar.Pattern
