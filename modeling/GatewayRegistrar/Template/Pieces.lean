import GatewayRegistrar.Template.Terms

/-!
# The pieces of a template

A template is cut into tags and the text between them. A tag stands between double braces, and its first sign says what
kind of tag it is. A backslash before the braces makes text of them.
-/

namespace GatewayRegistrar.Template

/-- Opening braces. -/
def opening (n : Nat) : List Char := List.replicate n '{'

/-- Closing braces. -/
def closing (n : Nat) : List Char := List.replicate n '}'

/-! ## Tags -/

/-- What a tag does. -/
inductive TokenKind where
  | expression (tag : Tag)
  | block (tag : Tag)
  | otherwise
  | otherwiseIf (tag : Tag)
  | close (name : String)
  | directive (tag : Tag)
  | directiveBlock (tag : Tag)
  | inclusion (tag : Tag)
  | inclusionBlock (tag : Tag)
  | comment

/-- A tag with its surroundings: the text before it in reverse order, the text behind it, and whether it removes the
blanks on either side. -/
structure Token where
  kind : TokenKind
  before : List Char
  after : List Char
  trimsBefore : Bool
  trimsAfter : Bool

/-- The place of a tag. -/
def Token.place (t : Token) : Place :=
  ⟨1 + t.before.count '\n', 1 + (t.before.takeWhile (· != '\n')).length⟩

/-- What follows a tilde, with blanks around it, and whether there is one. -/
def tilde (cs : List Char) : Bool × List Char :=
  match skipBlanks cs with
  | '~' :: rest => (true, skipBlanks rest)
  | rest => (false, rest)

/-- What follows the end of a tag, and whether the tag removes the blanks behind it. -/
def tagEnd? (braces : List Char) (cs : List Char) : Option (Bool × List Char) :=
  let (trims, rest) := tilde cs
  (dropStart? braces rest).map fun rest => (trims, rest)

/-- A term of any depth. -/
def anyTerm : Reader Term := fun cs => term (cs.length + 1) cs

/-- A name that is computed or a path. -/
def computedHead : Reader Head
  | '(' :: cs => (call anyTerm cs).map fun (t, rest) => (.call t, rest)
  | cs => (path cs).map fun (p, rest) => (.path p, rest)

/-- A helper with arguments, or a path. Each reading is tried up to the end of the tag. -/
def expressionTag {α : Type} (close : List Char → Option α) (cs : List Char) : Option (Tag × α) :=
  let cs := skipBlanks cs
  let withArguments : Option (Tag × α) := do
    let (name, rest) ← helperName cs
    let (args, rest) := arguments anyTerm rest.length rest
    if args.terms.isEmpty && args.options.isEmpty then none
    else (close rest).map fun a => (⟨.name name, args.terms, args.options, []⟩, a)
  withArguments.or do
    let (head, rest) ← computedHead cs
    (close rest).map fun a => (⟨head, [], [], []⟩, a)

/-- The variables of a block, between bars. -/
def blockVariables? (cs : List Char) : Option (List String × List Char) := do
  let rest ← dropStart? ['a', 's'] (skipBlanks cs)
  let rest ← afterClosing? '|' rest
  let (first, rest) ← helperName (skipBlanks rest)
  match helperName (skipBlanks rest) with
  | some (second, rest) => (afterClosing? '|' rest).map fun rest => ([first, second], rest)
  | none => (afterClosing? '|' rest).map fun rest => ([first], rest)

/-- A helper with its arguments, options and variables. -/
def helperTag : Reader Tag := fun cs => do
  let (name, rest) ← helperName (skipBlanks cs)
  let (args, rest) := arguments anyTerm rest.length rest
  let (bound, rest) := (blockVariables? rest).getD ([], rest)
  return (⟨.name name, args.terms, args.options, bound⟩, rest)

/-- Whether a character may stand in the name of another template. -/
def isInclusionChar (c : Char) : Bool := isNameChar c || c == '/' || c == '.' || c == '@'

/-- What follows the closing apostrophe of a name; a backslash before an apostrophe makes it part of the name. -/
def afterApostrophe? : List Char → Option (List Char)
  | [] => none
  | '\'' :: rest => some rest
  | '\\' :: '\'' :: rest => afterApostrophe? rest
  | _ :: rest => afterApostrophe? rest

/-- The name of another template, which may be any text between apostrophes; these belong to the name. -/
def inclusionName : Reader String := fun cs =>
  if cs.head?.any isInclusionChar then
    some (String.ofList (cs.takeWhile isInclusionChar), cs.dropWhile isInclusionChar)
  else
    match cs with
    | '\'' :: c :: rest =>
      if c = '\'' then none
      else (afterApostrophe? (c :: rest)).map fun after => (String.ofList (cs.take (cs.length - after.length)), after)
    | _ => none

/-- Another template with its arguments and options. -/
def inclusionTag : Reader Tag := fun cs => do
  let cs := skipBlanks cs
  let (head, rest) ← ((inclusionName cs).map fun (name, rest) => (Head.name name, rest)).or (computedHead cs)
  let (args, rest) := arguments anyTerm rest.length rest
  return (⟨head, args.terms, args.options, []⟩, rest)

/-- A tag that separates the branches of a block. -/
def otherwiseTag? (cs : List Char) : Option (TokenKind × Bool × List Char) := do
  let rest ← (dropStart? "else".toList cs).or (dropStart? ['^'] cs)
  match tagEnd? (closing 2) rest with
  | some (trims, rest) => return (.otherwise, trims, rest)
  | none =>
    let (tag, rest) ← helperTag rest
    let (trims, rest) ← tagEnd? (closing 2) rest
    return (.otherwiseIf tag, trims, rest)

/-- What stands in a tag between triple braces, or between braces within braces. -/
def bracedTag? (cs : List Char) : Option (Bool × Tag × Bool × List Char) :=
  let tight := do
    let rest ← dropStart? (opening 3) cs
    let (before, rest) := tilde rest
    let (tag, trims, rest) ← expressionTag (tagEnd? (closing 3)) rest
    return (before, tag, trims, rest)
  tight.or do
    let rest ← dropStart? (opening 2) cs
    let (before, rest) := tilde rest
    let rest ← dropStart? ['{'] rest
    let (tag, trims, rest) ← expressionTag (fun rest => (afterClosing? '}' rest).bind (tagEnd? (closing 2))) rest
    return (before, tag, trims, rest)

/-- A tag of the given kind up to its end. -/
def endedBy (kind : Tag → TokenKind) (r : Reader Tag) (cs : List Char) : Option (TokenKind × Bool × List Char) := do
  let (tag, rest) ← r cs
  let (trims, rest) ← tagEnd? (closing 2) rest
  return (kind tag, trims, rest)

/-- What stands in a tag behind the opening braces and a tilde. -/
def tagBody? (cs : List Char) : Option (TokenKind × Bool × List Char) :=
  match cs with
  | '#' :: rest =>
    match skipBlanks rest with
    | '*' :: rest => endedBy .directiveBlock helperTag rest
    | '>' :: rest => endedBy .inclusionBlock inclusionTag rest
    | rest => endedBy .block helperTag rest
  | '/' :: rest => do
    let (name, rest) := (inclusionName (skipBlanks rest)).getD ("", rest)
    let (trims, rest) ← tagEnd? (closing 2) rest
    return (.close name, trims, rest)
  | '*' :: rest => endedBy .directive helperTag rest
  | '>' :: rest => endedBy .inclusion inclusionTag rest
  | '&' :: rest => do
    let (head, rest) ← computedHead (skipBlanks rest)
    let (trims, rest) ← tagEnd? (closing 2) rest
    return (.expression ⟨head, [], [], []⟩, trims, rest)
  | _ =>
    (otherwiseTag? cs).or
      ((expressionTag (tagEnd? (closing 2)) cs).map fun (tag, trims, rest) => (.expression tag, trims, rest))

/-- What follows the first occurrence of `ending`. -/
def afterFirst? (ending : List Char) : List Char → Option (List Char)
  | [] => none
  | c :: cs =>
    match dropStart? ending (c :: cs) with
    | some rest => some rest
    | none => afterFirst? ending cs

/-- What follows a comment, whose opening braces and exclamation mark have been read. One that begins with two hyphens
ends with them too, if they come. -/
def afterComment? (cs : List Char) : Option (List Char) :=
  ((dropStart? ['-', '-'] (skipBlanks cs)).bind (afterFirst? (['-', '-'] ++ closing 2))).or (afterFirst? (closing 2) cs)

/-- The tag that stands first. -/
def token? (before cs : List Char) : Option Token :=
  match dropStart? (opening 2 ++ ['!']) cs with
  | some rest => (afterComment? rest).map fun after => ⟨.comment, before, after, false, false⟩
  | none =>
    match bracedTag? cs with
    | some (trimsBefore, tag, trimsAfter, after) => some ⟨.expression tag, before, after, trimsBefore, trimsAfter⟩
    | none => do
      let rest ← dropStart? (opening 2) cs
      let (trimsBefore, rest) := tilde rest
      let (kind, trimsAfter, after) ← tagBody? rest
      return ⟨kind, before, after, trimsBefore, trimsAfter⟩

/-! ## Text -/

/-- The text up to `stop`, without the backslashes that protect braces. The second argument bounds its length. -/
def plainText (stop : List Char) : Nat → List Char → List Char × List Char
  | 0, cs => ([], cs)
  | _, [] => ([], [])
  | n + 1, c :: cs =>
    let marks := cs.takeWhile (· == '\\')
    let rest := cs.dropWhile (· == '\\')
    if c = '\\' ∧ startsWith (opening 2) rest then
      if marks.isEmpty then
        let braces := if startsWith (opening 4) rest then 4 else 2
        let (more, after) := plainText stop n (rest.drop braces)
        (rest.take braces ++ more, after)
      else
        let (more, after) := plainText stop n rest
        (marks ++ more, after)
    else if startsWith stop (c :: cs) then ([], c :: cs)
    else
      let (more, after) := plainText stop n cs
      (c :: more, after)

/-- A piece of a template: text with the blanks before it, a tag, or a block whose body is text only. -/
inductive Piece where
  | gap (blanks text : List Char)
  | token (t : Token)
  | verbatim (first : Token) (body : List Char) (last : Token)

/-- The text `before` with what has been read from `cs` up to `rest`. -/
def past (before cs rest : List Char) : List Char := (cs.take (cs.length - rest.length)).reverse ++ before

/-- A block between fourfold braces, whose body is text only. -/
def verbatim? (before cs : List Char) : Option (Piece × List Char) := do
  let rest ← dropStart? (opening 4) cs
  let (trimsBefore, rest) := tilde rest
  let (tag, rest) ← helperTag rest
  let (trimsAfter, rest) ← tagEnd? (closing 4) rest
  let first : Token := ⟨.block tag, before, rest, trimsBefore, trimsAfter⟩
  let inner := skipBlanks rest
  let (body, rest) := plainText (opening 4) inner.length inner
  let before := past before cs rest
  let rest ← dropStart? (opening 4) rest
  let (trimsBefore, rest) := tilde rest
  let rest ← dropStart? ['/'] rest
  let (name, rest) ← helperName (skipBlanks rest)
  let (trimsAfter, rest) ← tagEnd? (closing 4) rest
  return (.verbatim first body ⟨.close name, before, rest, trimsBefore, trimsAfter⟩, rest)

/-- The pieces of what is left of a template, with the text before it in reverse order. The first argument bounds
their number. -/
def pieces? : Nat → List Char → List Char → Option (List Piece)
  | 0, _, _ => none
  | n + 1, before, cs =>
    let blanks := if before.isEmpty then [] else cs.takeWhile isTagBlank
    let start := cs.drop blanks.length
    let (text, rest) := plainText (opening 2) start.length start
    let gap : List Piece := if rest.length = cs.length then [] else [.gap blanks text]
    if rest.isEmpty then some gap
    else
      let before := past before cs rest
      match verbatim? before rest with
      | some (piece, after) => (pieces? n (past before rest after) after).map (gap ++ piece :: ·)
      | none => do
        let t ← token? before rest
        let more ← pieces? n (past before rest t.after) t.after
        return gap ++ .token t :: more

end GatewayRegistrar.Template
