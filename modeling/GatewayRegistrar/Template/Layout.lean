import GatewayRegistrar.Template.Pieces
import GatewayRegistrar.Text.Blank

/-!
# From pieces to a template

Blocks are closed by a tag with the name of the one that opened them. On the way blanks are removed: those next to a
tilde, and those around a tag that stands on a line alone, with the end of that line. Such are the tags of blocks,
directives and inclusions, and comments.
-/

namespace GatewayRegistrar.Template

/-- A finished branch of a block. -/
structure Branch where
  tag : Tag
  margin : Margin
  body : List Part

/-- What an open part of a template will become. The branches of a block that are finished stand in reverse order. -/
inductive Opening where
  | whole
  | block (place : Place) (finished : List Branch) (tag : Tag) (margin : Margin) (inverted : Bool)
  | directive (place : Place) (tag : Tag)
  | inclusion (place : Place) (tag : Tag) (margin : Margin)

/-- An open part, with its parts so far in reverse order. -/
structure Frame where
  opening : Opening
  parts : List Part

/-- A template that is being put together: the innermost open part and those around it, and what to do with the text
that comes next: drop the blanks at its beginning, or its first line end with the blanks before it. -/
structure Draft where
  inner : Frame
  outer : List Frame
  dropBlanks : Bool
  dropLine : Bool

namespace Draft

/-- Nothing read so far. -/
def start : Draft := ⟨⟨.whole, []⟩, [], false, false⟩

/-- One more part. -/
def push (d : Draft) (p : Part) : Draft := { d with inner := { d.inner with parts := p :: d.inner.parts } }

/-- A blank that is no line end. -/
def isSpace (c : Char) : Bool := c == ' ' || c == '\t'

/-- A character that ends a line. -/
def isLineEnd (c : Char) : Bool := c == '\n' || c == '\r'

/-- The text with the last character for which `drops` fails as its end. -/
def dropAtEnd (drops : Char → Bool) (cs : List Char) : List Char := (cs.reverse.dropWhile drops).reverse

/-- Shortens the text that was read last, if nothing has been read since. -/
def shortenLast (d : Draft) (drops : Char → Bool) : Draft :=
  match d.inner.parts with
  | .text s :: rest =>
    { d with inner := { d.inner with parts := .text (String.ofList (dropAtEnd drops s.toList)) :: rest } }
  | _ => d

/-- The text without its first line end. -/
def dropLineEnd : List Char → List Char
  | '\r' :: '\n' :: rest => rest
  | '\n' :: rest => rest
  | cs => cs

/-- Text between two tags. Blanks alone are dropped or kept as a whole; they then leave the end of a line to the text
that comes after. -/
def gap (d : Draft) (blanks text : List Char) : Draft :=
  let cs := blanks ++ text
  if d.dropBlanks then
    if text.isEmpty then d
    else { d.push (.text (String.ofList (cs.dropWhile isBlank))) with dropLine := false }
  else
    let kept := if d.dropLine then dropLineEnd (cs.dropWhile isSpace) else cs
    { d.push (.text (String.ofList kept)) with dropLine := false }

/-- Whether only blanks stand before a tag on its line. -/
def isBlankBefore (t : Token) : Bool := (t.before.dropWhile isSpace).head?.all isLineEnd

/-- Whether only blanks stand behind a tag on its line. -/
def isBlankBehind (t : Token) : Bool := t.after.isEmpty || (t.after.dropWhile isSpace).head?.any isLineEnd

/-- Removes the blanks next to the tildes of a tag. -/
def applyTildes (d : Draft) (t : Token) : Draft :=
  let d := if t.trimsBefore then d.shortenLast isBlank else d
  { d with dropBlanks := t.trimsAfter }

/-- Whether a tag stands alone on its line. -/
def isAlone (t : Token) : Bool := isBlankBehind t && isBlankBefore t

/-- Removes the line of a tag that stands alone on it. -/
def applyLine (d : Draft) (t : Token) : Draft :=
  if isAlone t then { d.shortenLast isSpace with dropLine := true } else { d with dropLine := false }

/-- Removes the blanks around a tag that stands for no text itself. -/
def applyTag (d : Draft) (t : Token) : Draft := (d.applyTildes t).applyLine t

/-- The blanks before a tag on its line. -/
def spacesBefore (t : Token) : String := String.ofList (t.before.takeWhile isSpace).reverse

/-- The margin of a block. A tag that removes the blanks before it has none. -/
def blockMargin (t : Token) : Margin := ⟨isAlone t && !t.trimsBefore, ""⟩

/-- The margin of an inclusion. -/
def inclusionMargin (t : Token) : Margin := { blockMargin t with
  indentation := if t.trimsBefore then "" else spacesBefore t }

/-- Opens a part. -/
def openPart (d : Draft) (o : Opening) : Draft := { d with inner := ⟨o, []⟩, outer := d.inner :: d.outer }

/-- A block with its branches: each one that continues another is the only part of what stands for the latter's
failure. -/
def blockPart (place : Place) (finished : List Branch) (last : Branch) (inverse : Option (List Part)) : Part :=
  match finished with
  | [] => .block (some place) last.tag last.margin last.body inverse
  | earlier :: rest => blockPart place rest earlier (some [.block none last.tag last.margin last.body inverse])

/-- The next branch of the innermost block. -/
def nextBranch? (d : Draft) (next : Option (Tag × Margin)) : Option Draft :=
  match d.inner.opening with
  | .block place finished tag margin false =>
    let finished := ⟨tag, margin, d.inner.parts.reverse⟩ :: finished
    match next with
    | some (tag, margin) => some { d with inner := ⟨.block place finished tag margin false, []⟩ }
    | none => some { d with inner := ⟨.block place finished tag margin true, []⟩ }
  | _ => none

/-- Whether a name may close a block or a directive. -/
def isHelperName (name : String) : Bool :=
  match helperName name.toList with
  | some (_, rest) => rest.isEmpty
  | none => false

/-- The finished innermost part. The tag that closes a directive may do without the name. -/
def closedPart? (f : Frame) (name : String) : Option Part :=
  let body := f.parts.reverse
  match f.opening with
  | .whole => none
  | .block place finished tag margin inverted => do
    let first := ((finished.getLast?).map (·.tag)).getD tag
    if !isHelperName name || first.closingName? != some name then none
    else if inverted then
      match finished with
      | last :: rest => some (blockPart place rest last (some body))
      | [] => none
    else some (blockPart place finished ⟨tag, margin, body⟩ none)
  | .directive place tag =>
    if name.isEmpty || (isHelperName name && tag.closingName? == some name) then
      some (.directive place tag (some body))
    else none
  | .inclusion place tag margin =>
    if tag.closingName? == some name then some (.inclusion place tag margin (some body)) else none

/-- Closes the innermost part. -/
def close? (d : Draft) (name : String) : Option Draft :=
  match d.outer with
  | frame :: outer => (closedPart? d.inner name).map fun p => { d with inner := frame, outer }.push p
  | [] => none

/-- Takes one tag. -/
def token? (d : Draft) (t : Token) : Option Draft :=
  match t.kind with
  | .expression tag => some ((d.applyTildes t).push (.expression t.place tag))
  | .block tag => some ((d.applyTag t).openPart (.block t.place [] tag (blockMargin t) false))
  | .otherwise => (d.applyTag t).nextBranch? none
  | .otherwiseIf tag => (d.applyTag t).nextBranch? (some (tag, blockMargin t))
  | .close name => (d.applyTag t).close? name
  | .directive tag => some ((d.applyTag t).push (.directive t.place tag none))
  | .directiveBlock tag => some ((d.applyTag t).openPart (.directive t.place tag))
  | .inclusion tag => some ((d.applyTag t).push (.inclusion t.place tag (inclusionMargin t) none))
  | .inclusionBlock tag => some ((d.applyTag t).openPart (.inclusion t.place tag (blockMargin t)))
  | .comment => some ((d.applyLine t).push .comment)

/-- Text that is the body of a block by itself. -/
def verbatimText (d : Draft) (body : List Char) : Draft :=
  let kept :=
    if d.dropBlanks then body.dropWhile isBlank
    else if d.dropLine then dropLineEnd (body.dropWhile isSpace)
    else body
  d.push (.text (String.ofList kept))

/-- Takes one piece. -/
def piece? (d : Draft) : Piece → Option Draft
  | .gap blanks text => some (d.gap blanks text)
  | .token t => d.token? t
  | .verbatim first body last => do
    let d ← d.token? first
    (d.verbatimText body).token? last

end Draft

/-- A template is a list of parts. -/
abbrev Parts := List Part

/-- The template that a text writes; `none` when a tag has the wrong form or a block is not closed. -/
def partsOfText? (s : String) : Option Parts := do
  let cs := s.toList
  let ps ← pieces? (cs.length + 1) [] cs
  let d ← ps.foldlM Draft.piece? .start
  if d.outer.isEmpty then some d.inner.parts.reverse else none

end GatewayRegistrar.Template
