import GatewayRegistrar.Text.Digits

/-!
# Texts in TOML

A text stands between quotation marks, in which a backslash begins an escape, or between apostrophes, in which every
character stands for itself. Three marks on either side allow line breaks inside.
-/

namespace GatewayRegistrar.Toml

/-- The characters that may stand on a line: all but the controls, of which the tab is allowed. -/
def isVisible (c : Char) : Bool := c == '\t' || (0x20 ≤ c.toNat && c.toNat != 0x7F)

/-- What follows a line break. -/
def lineBreak? : List Char → Option (List Char)
  | '\n' :: rest => some rest
  | '\r' :: '\n' :: rest => some rest
  | _ => none

/-- The text from the first character that is neither a space nor a tab. -/
def skipBlanks (cs : List Char) : List Char := cs.dropWhile fun c => c == ' ' || c == '\t'

/-- The text from the first character that is no space, tab or part of a line break. -/
def skipGap : List Char → List Char
  | ' ' :: rest => skipGap rest
  | '\t' :: rest => skipGap rest
  | '\n' :: rest => skipGap rest
  | '\r' :: '\n' :: rest => skipGap rest
  | cs => cs

/-- The character with the given code, written in a fixed number of hexadecimal digits. -/
def coded (width : Nat) : Reader Char := fun cs => do
  let digits := cs.take width
  if digits.length = width ∧ digits.all (fun c => (hexDigit? c).isSome) then
    let n := numberOf 16 digits
    if n.isValidChar then some (Char.ofNat n, cs.drop width) else none
  else none

/-- What an escape stands for; its backslash has been read. -/
def escape : Reader Char
  | 'b' :: rest => some ('\x08', rest)
  | 't' :: rest => some ('\t', rest)
  | 'n' :: rest => some ('\n', rest)
  | 'f' :: rest => some ('\x0c', rest)
  | 'r' :: rest => some ('\r', rest)
  | '"' :: rest => some ('"', rest)
  | '\\' :: rest => some ('\\', rest)
  | 'u' :: rest => coded 4 rest
  | 'U' :: rest => coded 8 rest
  | _ => none

/-- Reads pieces of a text up to its close, which may hold a last piece. The first argument bounds their number. -/
def untilClosed (close piece : Reader (List Char)) : Nat → Reader (List Char)
  | 0, _ => none
  | n + 1, cs =>
    match close cs with
    | some closed => some closed
    | none => do
      let (p, rest) ← piece cs
      let (more, rest) ← untilClosed close piece n rest
      some (p ++ more, rest)

/-- The mark that closes a text on one line. -/
def closeOne (mark : Char) : Reader (List Char)
  | c :: rest => if c = mark then some ([], rest) else none
  | [] => none

/-- The three marks that close a text on several lines. Up to two marks before them belong to the text. -/
def closeThree (mark : Char) : Reader (List Char) := fun cs =>
  let marks := (cs.take 5).takeWhile (· == mark)
  if marks.length < 3 then none else some (marks.drop 3, cs.drop marks.length)

/-- A piece of a text between quotation marks on one line. -/
def basicPiece : Reader (List Char)
  | '\\' :: rest => (escape rest).map fun (c, rest) => ([c], rest)
  | c :: rest => if isVisible c then some ([c], rest) else none
  | [] => none

/-- A piece of a text between apostrophes on one line. -/
def literalPiece : Reader (List Char)
  | c :: rest => if isVisible c then some ([c], rest) else none
  | [] => none

/-- A line break as a piece of a text, or else what `piece` reads. -/
def orLineBreak (piece : Reader (List Char)) : Reader (List Char) := fun cs =>
  match lineBreak? cs with
  | some rest => some (['\n'], rest)
  | none => piece cs

/-- A backslash at the end of a line takes the gap up to the next visible character out of the text. -/
def orJoin (piece : Reader (List Char)) : Reader (List Char) := fun cs =>
  match cs with
  | '\\' :: rest =>
    match lineBreak? (skipBlanks rest) with
    | some rest => some ([], skipGap rest)
    | none => piece cs
  | _ => piece cs

/-- The text without a line break at its start. -/
def dropLineBreak (cs : List Char) : List Char := (lineBreak? cs).getD cs

/-- The characters of a text on one line, whose opening mark has been read. -/
def lineText (mark : Char) (piece : Reader (List Char)) : Reader String := fun cs => do
  let (chars, rest) ← untilClosed (closeOne mark) piece (cs.length + 1) cs
  some (String.ofList chars, rest)

/-- The characters of a text on several lines, whose opening marks have been read. A line break right behind them is
not part of the text. -/
def linesText (mark : Char) (piece : Reader (List Char)) : Reader String := fun cs => do
  let cs := dropLineBreak cs
  let (chars, rest) ← untilClosed (closeThree mark) piece (cs.length + 1) cs
  some (String.ofList chars, rest)

/-- A text on one line. -/
def oneLine : Reader String
  | '"' :: rest => lineText '"' basicPiece rest
  | '\'' :: rest => lineText '\'' literalPiece rest
  | _ => none

/-- A text. -/
def text : Reader String
  | '"' :: '"' :: '"' :: rest => linesText '"' (orLineBreak (orJoin basicPiece)) rest
  | '\'' :: '\'' :: '\'' :: rest => linesText '\'' (orLineBreak literalPiece) rest
  | cs => oneLine cs

end GatewayRegistrar.Toml
