import GatewayRegistrar.Pattern.Brackets

/-!
# Reading patterns

A pattern is a choice between sequences of parts, each of which may be repeated. Groups nest; the flags at the
beginning of a group, or anywhere in it, hold up to its end.
-/

namespace GatewayRegistrar.Pattern

open Scan

/-- Whether a character may stand in the name of a group. -/
def isNameChar (isFirst : Bool) (c : Char) : Bool :=
  let letter := (Unicode.property "Alphabetic").holds c
  if isFirst then c == '_' || letter
  else c == '_' || c == '.' || c == '[' || c == ']' || letter || (Unicode.category "N").holds c

/-- The name of a group up to the closing angle; the first argument bounds its length. -/
def groupNameChars : Nat → List Char → Scan (List Char)
  | 0, name => return name
  | n + 1, name => do
    match ← peek with
    | none => return name
    | some '>' => return name
    | some c =>
      if !isNameChar name.isEmpty c then return ← fail (← hereChar) .groupNameInvalid
      let _ ← bump
      groupNameChars n (name ++ [c])

/-- The name of a group, which has to be new, with the cursor behind the opening angle. -/
def groupName : Scan Unit := do
  if (← peek).isNone then return ← fail (← here) .groupNameUnexpectedEnd
  let start ← position
  let name ← groupNameChars (← get).rest.length []
  if (← peek).isNone then return ← fail (← here) .groupNameUnexpectedEnd
  let span : Span := ⟨start, ← position⟩
  let _ ← bump
  if name.isEmpty then return ← fail (.empty start) .groupNameEmpty
  match (← get).names.find? (·.1 = name) with
  | some (_, earlier) => fail span (.groupNameDuplicate earlier)
  | none => modify fun c => { c with names := c.names ++ [(name, span)] }

/-- The flag with a letter. -/
def flagOfLetter? : Char → Option Flag
  | 'i' => some .ignoreCase
  | 'm' => some .multiLine
  | 's' => some .dotMatchesNewline
  | 'U' => some .swapGreed
  | 'u' => some .unicode
  | 'R' => some .carriageReturn
  | 'x' => some .verbose
  | _ => none

/-- The flags up to a colon or a closing parenthesis, each with its place; the first argument bounds their number. -/
def flagItems : Nat → List (FlagItem × Span) → Scan (List (FlagItem × Span))
  | 0, items => return items
  | n + 1, items => do
    let c := (← peek).getD ')'
    if c == ':' || c == ')' then
      match items.getLast? with
      | some (.negation, span) => fail span .flagDanglingNegation
      | _ => return items
    else
      let span ← hereChar
      let item ←
        if c == '-' then pure FlagItem.negation
        else
          match flagOfLetter? c with
          | some f => pure (FlagItem.flag f)
          | none => fail span .flagUnrecognized
      match items.find? (·.1 = item) with
      | some (_, earlier) =>
        fail span (if item = .negation then .flagRepeatedNegation earlier else .flagDuplicate earlier)
      | none =>
        if !(← bump) then return ← fail (← here) .flagUnexpectedEnd
        flagItems n (items ++ [(item, span)])

/-- What an opening parenthesis begins. -/
inductive Opening where
  | flags (span : Span) (items : List FlagItem)
  | capture (span : Span)
  | group (span : Span) (items : List FlagItem)

/-- Reads an opening parenthesis and what belongs to it. -/
def opening : Scan Opening := do
  let span ← hereChar
  let _ ← bump
  skipBlanks
  let behind ← here
  for text in ["?=", "?!", "?<=", "?<!"] do
    if ← bumpIf text then return ← fail ⟨span.first, ← position⟩ .unsupportedLookAround
  if (← bumpIf "?P<") || (← bumpIf "?<") then
    groupName
    return .capture span
  else if ← bumpIf "?" then
    if (← peek).isNone then return ← fail span .groupUnclosed
    let items := (← flagItems ((← get).rest.length + 1) []).map (·.1)
    let isGroup := (← peek) == some ':'
    let _ ← bump
    if isGroup then return .group span items
    else if items.isEmpty then fail behind .repetitionMissing
    else return .flags ⟨span.first, ← position⟩ items
  else return .capture span

/-- Digits with blanks between them in the verbose mode; the first argument bounds their number. -/
def decimalDigits : Nat → List Char → Scan (List Char)
  | 0, digits => return digits
  | n + 1, digits => do
    match ← peek with
    | some c =>
      if c.isDigit then
        let _ ← bumpSkip
        decimalDigits n (digits ++ [c])
      else return digits
    | none => return digits

/-- Blanks before or behind a number; the first argument bounds their number. -/
def numberBlanks : Nat → Scan Unit
  | 0 => return
  | n + 1 => do
    if (← peek).any isBlank then
      let _ ← bump
      numberBlanks n

/-- A number. Its fault is a value, because other faults of the repetition come before it. -/
def decimal : Scan (Except Fault Nat) := do
  numberBlanks (← get).rest.length
  let start ← position
  let digits ← decimalDigits (← get).rest.length []
  let span : Span := ⟨start, ← position⟩
  numberBlanks (← get).rest.length
  if digits.isEmpty then return .error ⟨.repetitionCountDecimalEmpty, span⟩
  let n := digits.foldl (fun n d => n * 10 + (d.toNat - '0'.toNat)) 0
  if n < 1 <<< 32 then return .ok n else return .error ⟨.decimalInvalid, span⟩

/-- Takes the part that a repetition applies to from the end of the parts. -/
def repeatedPart (parts : List Tree) : Scan (List Tree × Tree) := do
  match parts.getLast? with
  | none => fail (← here) .repetitionMissing
  | some (.empty _) => fail (← here) .repetitionMissing
  | some (.flags ..) => fail (← here) .repetitionMissing
  | some t => return (parts.dropLast, t)

/-- A repetition by `?`, `*` or `+`. -/
def signRepetition (parts : List Tree) (least : Nat) (most : Option Nat) : Scan (List Tree) := do
  let (parts, t) ← repeatedPart parts
  let _ ← bump
  let _ ← bumpIf "?"
  return parts ++ [.repetition ⟨t.span.first, ← position⟩ least most t]

/-- A repetition with numbers in braces. -/
def countedRepetition (parts : List Tree) : Scan (List Tree) := do
  let start ← position
  let (parts, t) ← repeatedPart parts
  if !(← bumpSkip) then return ← fail ⟨start, ← position⟩ .repetitionCountUnclosed
  let low ← decimal
  if (← peek).isNone then return ← fail ⟨start, ← position⟩ .repetitionCountUnclosed
  let (least, most) ←
    if (← peek) == some ',' then do
      if !(← bumpSkip) then return ← fail ⟨start, ← position⟩ .repetitionCountUnclosed
      let least ← (low : Except Fault Nat)
      if (← peek) == some '}' then pure (least, none)
      else
        let most ← ((← decimal) : Except Fault Nat)
        pure (least, some most)
    else do
      let n ← (low : Except Fault Nat)
      pure (n, some n)
  if (← peek) != some '}' then return ← fail ⟨start, ← position⟩ .repetitionCountUnclosed
  if ← bumpSkip then
    let _ ← bumpIf "?"
  let stop ← position
  if most.any (· < least) then return ← fail ⟨start, stop⟩ .repetitionCountInvalid
  return parts ++ [.repetition ⟨t.span.first, stop⟩ least most t]

/-- A sequence as a pattern. -/
def sequenceTree (span : Span) : List Tree → Tree
  | [] => .empty span
  | [t] => t
  | ts => .concat span ts

mutual

/-- The parts of a sequence up to a bar, a closing parenthesis or the end. The first argument bounds the steps. -/
def parts : Nat → List Tree → Scan (List Tree)
  | 0, done => return done
  | n + 1, done => do
    skipBlanks
    match ← peek with
    | none => return done
    | some '|' => return done
    | some ')' => return done
    | some '(' => do
      let part ← parenthesized n
      parts n (done ++ [part])
    | some '[' => do
      let c ← get
      let part ← bracketed (2 * c.rest.length + 2)
      match part with
      | .bracketed span negated body => parts n (done ++ [.bracketed span negated body])
      | _ => return done
    | some '?' => do parts n (← signRepetition done 0 (some 1))
    | some '*' => do parts n (← signRepetition done 0 none)
    | some '+' => do parts n (← signRepetition done 1 none)
    | some '{' => do parts n (← countedRepetition done)
    | some _ => do
      let part ← primitive
      parts n (done ++ [part.tree])

/-- A group, or flags, with the cursor on the opening parenthesis. -/
def parenthesized : Nat → Scan Tree
  | 0 => do fail (← here) .groupUnclosed
  | n + 1 => do
    let outside := (← get).verbose
    match ← opening with
    | .flags span items =>
      modify fun c => { c with verbose := (flagState? .verbose items).getD c.verbose }
      return .flags span items
    | .capture span =>
      let body ← choice n []
      closing outside span
      return .capture ⟨span.first, ← position⟩ body
    | .group span items =>
      modify fun c => { c with verbose := (flagState? .verbose items).getD c.verbose }
      let body ← choice n []
      closing outside span
      return .group ⟨span.first, ← position⟩ items body

/-- The branches of a choice, the first of which have been read. -/
def choice : Nat → List (Position × Tree) → Scan Tree
  | 0, _ => return .empty (← here)
  | n + 1, done => do
    let start ← position
    let sequence ← parts n []
    let stop ← position
    let branch := sequenceTree ⟨start, stop⟩ sequence
    if (← peek) == some '|' then
      let _ ← bump
      choice n (done ++ [(start, branch)])
    else
      match done with
      | [] => return branch
      | (first, _) :: _ => return .alternation ⟨first, stop⟩ (done.map (·.2) ++ [branch])

/-- The end of the group that begins at `span`, behind which the verbose mode is as it was outside. -/
def closing (outside : Bool) (span : Span) : Scan Unit := do
  if (← peek).isNone then fail span .groupUnclosed
  modify fun c => { c with verbose := outside }
  let _ ← bump

end

/-- Reads a whole pattern. -/
def wholePattern : Scan Tree := do
  let tree ← choice (4 * (← get).rest.length + 4) []
  if (← peek).isSome then fail (← hereChar) .groupUnopened
  return tree

/-- The form of a pattern, or the first fault in it. -/
def Tree.ofText? (pattern : List Char) : Except Fault Tree :=
  (wholePattern.run ⟨pattern, .start, false, []⟩).map (·.1)

end GatewayRegistrar.Pattern
