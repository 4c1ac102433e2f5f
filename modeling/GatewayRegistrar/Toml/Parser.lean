import GatewayRegistrar.Toml.Moment
import GatewayRegistrar.Toml.Number
import GatewayRegistrar.Toml.Text
import GatewayRegistrar.Toml.Tree

/-!
# Reading TOML

`Toml.parse?` first takes a document apart into its lines, each a header or a key with a value, and then puts the
tables together in the order of the lines.
-/

namespace GatewayRegistrar.Toml

/-- The text behind blanks, line breaks and comments. The flag says whether a comment is open. -/
def skipVoid : Bool → List Char → List Char
  | _, [] => []
  | _, '\n' :: rest => skipVoid false rest
  | _, '\r' :: '\n' :: rest => skipVoid false rest
  | true, c :: rest => if isVisible c then skipVoid true rest else c :: rest
  | false, c :: rest =>
    if c = ' ' ∨ c = '\t' then skipVoid false rest
    else if c = '#' then skipVoid true rest
    else c :: rest

/-- What follows the end of a line, before which a comment may stand. -/
def lineEnd? (cs : List Char) : Option (List Char) :=
  let rest :=
    match skipBlanks cs with
    | '#' :: comment => comment.dropWhile isVisible
    | rest => rest
  if rest.isEmpty then some [] else lineBreak? rest

/-- The characters of a key that needs no quotes. -/
def isBareKeyChar (c : Char) : Bool := c.isAlphanum || c == '_' || c == '-'

/-- One key. -/
def key : Reader String := fun cs =>
  match oneLine cs with
  | some found => some found
  | none =>
    let bare := cs.takeWhile isBareKeyChar
    if bare.isEmpty then none else some (String.ofList bare, cs.dropWhile isBareKeyChar)

/-- The keys between points, and the blanks around them. The first argument bounds their number. -/
def dottedKeys : Nat → Reader (List String)
  | 0, _ => none
  | n + 1, cs => do
    let (k, rest) ← key (skipBlanks cs)
    match skipBlanks rest with
    | '.' :: rest => do
      let (ks, rest) ← dottedKeys n rest
      some (k :: ks, rest)
    | rest => some ([k], rest)

/-- The number of keys that a path stays below. -/
def pathLimit : Nat := 80

/-- A path. -/
def path : Reader Path := fun cs => do
  let (ks, rest) ← dottedKeys (pathLimit - 1) cs
  let name ← ks.getLast?
  some (⟨ks.dropLast, name⟩, rest)

/-- A value that is neither a list nor a table. -/
def scalar : Reader Value
  | 't' :: 'r' :: 'u' :: 'e' :: rest => some (.boolean true, rest)
  | 'f' :: 'a' :: 'l' :: 's' :: 'e' :: rest => some (.boolean false, rest)
  | cs =>
    match text cs with
    | some (s, rest) => some (.text s, rest)
    | none =>
      match momentText cs with
      | some (m, rest) => some (moment m, rest)
      | none => number cs

/-- The items of a list up to its closing bracket; the first argument bounds their number. -/
def items (value : Reader Value) : Nat → Reader (List Value)
  | 0, _ => none
  | n + 1, cs =>
    match skipVoid false cs with
    | ']' :: rest => some ([], rest)
    | cs => do
      let (v, rest) ← value cs
      match skipVoid false rest with
      | ',' :: rest => do
        let (vs, rest) ← items value n rest
        some (v :: vs, rest)
      | ']' :: rest => some ([v], rest)
      | _ => none

/-- A path, an equals sign and a value. -/
def assignment (value : Reader Value) : Reader (Path × Value) := fun cs => do
  let (p, rest) ← path cs
  match rest with
  | '=' :: rest => (value (skipBlanks rest)).map fun (v, rest) => ((p, v), rest)
  | _ => none

/-- The assignments up to the closing brace, at least one of them; the first argument bounds their number. -/
def assignments (value : Reader Value) : Nat → Reader (List (Path × Value))
  | 0, _ => none
  | n + 1, cs => do
    let (a, rest) ← assignment value cs
    match skipBlanks rest with
    | ',' :: rest => do
      let (more, rest) ← assignments value n rest
      some (a :: more, rest)
    | '}' :: rest => some ([a], rest)
    | _ => none

/-- How deep lists and tables may stand in one another. -/
def nestingLimit : Nat := 79

/-- A value. The first argument is how deep lists and tables may stand in it. -/
def value : Nat → List Char → Option (Value × List Char)
  | n + 1, '[' :: rest => (items (value n) (rest.length + 1) rest).map fun (vs, rest) => (.list vs, rest)
  | n + 1, '{' :: rest =>
    match skipBlanks rest with
    | '}' :: rest => some (.table [], rest)
    | _ => do
      let (pairs, rest) ← assignments (value n) (rest.length + 1) rest
      (tableOf? pairs).map (·, rest)
  | _, cs => scalar cs

/-- A line of a document. -/
inductive Line where
  | table (p : Path)
  | item (p : Path)
  | entry (p : Path) (v : Value)
deriving Repr

/-- A line, with the text behind its end. -/
def line : Reader Line
  | '[' :: '[' :: rest => do
    let (p, rest) ← path rest
    match rest with
    | ']' :: ']' :: rest => (lineEnd? rest).map (.item p, ·)
    | _ => none
  | '[' :: rest => do
    let (p, rest) ← path rest
    match rest with
    | ']' :: rest => (lineEnd? rest).map (.table p, ·)
    | _ => none
  | cs => do
    let ((p, v), rest) ← assignment (value nestingLimit) cs
    (lineEnd? rest).map (.entry p v, ·)

/-- The lines of a document; the first argument bounds their number. -/
def lines? : Nat → List Char → Option (List Line)
  | 0, _ => none
  | n + 1, cs =>
    match skipVoid false cs with
    | [] => some []
    | cs => do
      let (l, rest) ← line cs
      let ls ← lines? n rest
      some (l :: ls)

/-- The tables read so far, and the keys of the table that was opened last. -/
structure Reading where
  entries : Entries
  opened : List String

/-- Takes one more line in. -/
def Reading.take (r : Reading) : Line → Option Reading
  | .table p => (r.entries.openTable p).map (⟨·, p.keys⟩)
  | .item p => (r.entries.openItem p).map (⟨·, p.keys⟩)
  | .entry p v => (r.entries.assignUnder r.opened p v).map (⟨·, r.opened⟩)

/-- The table that the lines of a document describe. -/
def ofLines? (ls : List Line) : Option Value :=
  (ls.foldlM Reading.take ⟨[], []⟩).map fun r => .table (entryValues r.entries)

/-- The text without the mark that may begin a document. -/
def withoutByteOrderMark : List Char → List Char
  | '\uFEFF' :: rest => rest
  | cs => cs

/-- The table of a document; `none` when the text is no document. -/
def parse? (s : String) : Option Value := do
  let cs := withoutByteOrderMark s.toList
  ofLines? (← lines? (cs.length + 1) cs)

end GatewayRegistrar.Toml
