import GatewayRegistrar.Json.Parser
import GatewayRegistrar.Template.Tree

/-!
# Reading what stands in a tag

Names, paths, literals and calls. Every reader takes what stands first in a text and returns what follows; blanks
between the parts of a tag have no meaning.
-/

namespace GatewayRegistrar.Template

/-- The blanks between the parts of a tag. -/
def isTagBlank (c : Char) : Bool := c == ' ' || c == '\t' || c == '\n' || c == '\r'

/-- The text from the first character that is no blank. -/
def skipBlanks (cs : List Char) : List Char := cs.dropWhile isTagBlank

/-- The characters of names. -/
def isNameChar (c : Char) : Bool :=
  c.isAlphanum || c == '_' || c == '-' || c == ':' || c == '$' || 0x80 ≤ c.toNat

/-- Whether a character of a name stands first. -/
def beginsName (cs : List Char) : Bool := cs.head?.any isNameChar

/-- The name of a helper, an option or a variable. -/
def helperName : Reader String := fun cs =>
  if beginsName cs then some (String.ofList (cs.takeWhile isNameChar), cs.dropWhile isNameChar) else none

/-! ## Paths -/

/-- The key of a step: a name, or anything between brackets. The key `this` is no step. -/
def pathKey : Reader (List Step)
  | '[' :: cs =>
    match cs.dropWhile (· != ']') with
    | ']' :: rest => some (stepOf (cs.takeWhile (· != ']')), rest)
    | _ => none
  | cs => if beginsName cs then some (stepOf (cs.takeWhile isNameChar), cs.dropWhile isNameChar) else none
where
  stepOf (name : List Char) : List Step :=
    if name = "this".toList then [] else [.key (String.ofList name)]

/-- What follows the separator of two steps. -/
def pathSeparator? : List Char → Option (List Char)
  | '.' :: rest => some rest
  | '/' :: rest => some rest
  | _ => none

/-- What follows `text` and a separator. -/
def wordAndSeparator? (text : List Char) (cs : List Char) : Option (List Char) :=
  (dropStart? text cs).bind pathSeparator?

/-- The steps outwards; the first argument bounds their number. -/
def stepsUp : Nat → List Char → List Step × List Char
  | 0, cs => ([], cs)
  | n + 1, cs =>
    match wordAndSeparator? ['.', '.'] cs with
    | some rest =>
      let (steps, rest) := stepsUp n rest
      (.up :: steps, rest)
    | none => ([], cs)

/-- The keys behind the first one; the argument bounds their number. -/
def moreKeys : Nat → List Char → List Step × List Char
  | 0, cs => ([], cs)
  | n + 1, cs =>
    match (pathSeparator? cs).bind pathKey with
    | some (steps, rest) =>
      let (more, rest) := moreKeys n rest
      (steps ++ more, rest)
    | none => ([], cs)

/-- What follows the mark of the current value, if it stands first. -/
def dropCurrentMark (cs : List Char) : List Char :=
  match wordAndSeparator? "this".toList cs with
  | some rest => rest
  | none => (dropStart? ['.', '/'] cs).getD cs

/-- The mark of the outermost value, if it stands first. -/
def outermostMark (cs : List Char) : List Step × List Char :=
  match wordAndSeparator? "@root".toList cs with
  | some rest => ([.outermost], rest)
  | none => ([], cs)

/-- The mark of a loop variable, if it stands first. -/
def localMark : List Char → List Step × List Char
  | '@' :: rest => ([.localMark], rest)
  | cs => ([], cs)

/-- A path. -/
def path : Reader Path := fun cs => do
  let (root, rest) := outermostMark (dropCurrentMark cs)
  let (mark, rest) := localMark rest
  let (ups, rest) := stepsUp rest.length rest
  let (key, rest) ← pathKey rest
  let (more, rest) := moreKeys rest.length rest
  return (⟨String.ofList (cs.take (cs.length - rest.length)), root ++ mark ++ ups ++ key ++ more⟩, rest)

/-! ## Literals -/

/-- What follows an escape in a quoted text, whose backslash has been read. -/
def afterEscape? (quote : Char) : List Char → Option (List Char)
  | 'u' :: rest => (Json.fourHex rest).map (·.2)
  | c :: rest => if c = quote ∨ c ∈ ['\\', '/', 'b', 'f', 'n', 'r', 't'] then some rest else none
  | [] => none

/-- What follows the closing quote; the first argument bounds the length of the text. -/
def afterQuote? (quote : Char) : Nat → List Char → Option (List Char)
  | 0, _ => none
  | _, [] => none
  | n + 1, c :: rest =>
    if c = quote then some rest
    else if c = '\\' then (afterEscape? quote rest).bind (afterQuote? quote n)
    else afterQuote? quote n rest

/-- What follows a quoted text. -/
def afterText? : List Char → Option (List Char)
  | '"' :: rest => afterQuote? '"' (rest.length + 1) rest
  | '\'' :: rest => afterQuote? '\'' (rest.length + 1) rest
  | _ => none

/-- What follows if no name goes on here. -/
def atNameEnd? (cs : List Char) : Option (List Char) := if beginsName cs then none else some cs

/-- What follows the exponent of a number, if one stands first. -/
def afterExponent (cs : List Char) : List Char :=
  match cs with
  | 'E' :: more =>
    let digits := (dropStart? ['-'] more).getD more
    if digits.head?.any Char.isDigit then digits.dropWhile Char.isDigit else cs
  | _ => cs

/-- What follows a number. -/
def afterNumber? (cs : List Char) : Option (List Char) :=
  let cs := (dropStart? ['-'] cs).getD cs
  if cs.head?.any Char.isDigit then
    let rest := cs.dropWhile Char.isDigit
    let rest := (dropStart? ['.'] rest).getD rest
    atNameEnd? (afterExponent (rest.dropWhile Char.isDigit))
  else none

/-- What follows `null`, `true` or `false`. -/
def afterWord? (cs : List Char) : Option (List Char) :=
  ["null", "true", "false"].findSome? fun word => (dropStart? word.toList cs).bind atNameEnd?

/-- What follows the items of a list, each behind a comma; the first argument bounds their number. -/
def afterItems (item : List Char → Option (List Char)) : Nat → List Char → List Char
  | 0, cs => cs
  | n + 1, cs =>
    match skipBlanks cs with
    | ',' :: rest =>
      match item (skipBlanks rest) with
      | some rest => afterItems item n rest
      | none => cs
    | _ => cs

/-- What follows the closing sign, with blanks before it. -/
def afterClosing? (sign : Char) (cs : List Char) : Option (List Char) := dropStart? [sign] (skipBlanks cs)

/-- What follows a literal. The first argument bounds how deep literals are nested. -/
def afterLiteral? : Nat → List Char → Option (List Char)
  | 0, _ => none
  | n + 1, cs =>
    match cs with
    | '[' :: rest =>
      let rest := (afterLiteral? n (skipBlanks rest)).getD rest
      afterClosing? ']' (afterItems (afterLiteral? n) rest.length rest)
    | '{' :: rest =>
      let entry (cs : List Char) : Option (List Char) :=
        (afterText? cs).bind fun rest => (afterClosing? ':' rest).bind fun rest => afterLiteral? n (skipBlanks rest)
      let rest := (entry (skipBlanks rest)).getD rest
      afterClosing? '}' (afterItems entry rest.length rest)
    | _ => (afterText? cs).or ((afterNumber? cs).or (afterWord? cs))

/-- A text between apostrophes as it is written between double quotes. -/
def doubleQuoted : List Char → List Char
  | '\\' :: '\'' :: rest => '\'' :: doubleQuoted rest
  | '"' :: rest => '\\' :: '"' :: doubleQuoted rest
  | c :: rest => c :: doubleQuoted rest
  | [] => []

/-- The value of a literal as written; `none` when it has the form of a literal only. -/
def literalValue? (cs : List Char) : Option Value :=
  let json :=
    match cs with
    | '\'' :: rest => '"' :: doubleQuoted rest.dropLast ++ ['"']
    | _ => cs
  (Json.parse? (String.ofList json)).map Value.sorted

/-! ## Arguments -/

/-- Whether a keyword stands first that ends the arguments. -/
def beginsKeyword (cs : List Char) : Bool :=
  ["as", "else"].any fun word => (dropStart? word.toList cs).any fun rest => !beginsName (skipBlanks rest)

/-- The arguments and options of a tag, in their order. -/
structure Arguments where
  terms : List Term
  options : List (String × Term)

/-- An option: a name, an equals sign and a term. -/
def option (term : Reader Term) : Reader (String × Term) := fun cs => do
  let (name, rest) ← helperName cs
  let rest ← afterClosing? '=' rest
  let (t, rest) ← term (skipBlanks rest)
  return ((name, t), rest)

/-- As many arguments and options as follow; the first argument bounds their number. -/
def arguments (term : Reader Term) : Nat → List Char → Arguments × List Char
  | 0, cs => (⟨[], []⟩, cs)
  | n + 1, cs =>
    match option term (skipBlanks cs) with
    | some (o, rest) =>
      let (args, rest) := arguments term n rest
      (⟨args.terms, o :: args.options⟩, rest)
    | none =>
      match term (skipBlanks cs) with
      | some (t, rest) =>
        let (args, rest) := arguments term n rest
        (⟨t :: args.terms, args.options⟩, rest)
      | none => (⟨[], []⟩, cs)

/-- A call in parentheses, whose opening one has been read. A path alone is the name of a helper. -/
def call (term : Reader Term) : Reader Term := fun cs =>
  let cs := skipBlanks cs
  let withArguments : Option (Term × List Char) := do
    let (name, rest) ← helperName cs
    let (args, rest) := arguments term rest.length rest
    if args.terms.isEmpty && args.options.isEmpty then none
    else
      let rest ← afterClosing? ')' rest
      return (.call name args.terms args.options, rest)
  withArguments.or do
    let (p, rest) ← path cs
    let rest ← afterClosing? ')' rest
    return (.call p.written [] [], rest)

/-- An argument. What has the form of a literal is one, or a fault. The first argument bounds how deep calls are
nested. -/
def term : Nat → Reader Term
  | 0, _ => none
  | n + 1, cs =>
    if beginsKeyword cs then none
    else
      match afterLiteral? (cs.length + 1) cs with
      | some rest => (literalValue? (cs.take (cs.length - rest.length))).map fun v => (.literal v, rest)
      | none =>
        match path cs with
        | some (p, rest) => some (.path p, rest)
        | none =>
          match cs with
          | '(' :: rest => call (term n) rest
          | _ => none

end GatewayRegistrar.Template
