import GatewayRegistrar.Decimal.Shortest
import GatewayRegistrar.Value.Basic

/-!
# Writing TOML

`Toml.print` writes a table as a document: first the entries that are no tables, then each table under its header, with
a blank line before it. A text is written in the first form that needs no escapes: between quotation marks, between
apostrophes, and then between three of either.
-/

namespace GatewayRegistrar.Toml

/-! ## Texts -/

/-- The forms of a text. -/
inductive Quotation where
  | basic
  | literal
  | basicLines
  | literalLines
deriving DecidableEq, Repr

/-- The controls that have to be escaped wherever they stand. -/
def isHidden (c : Char) : Bool := (c.toNat < 0x20 && c != '\t' && c != '\n') || c == '\x7f'

/-- The length of the longest run of a character; the first number is that of the run before the text. -/
def longestRun (mark : Char) : Nat → List Char → Nat
  | run, [] => run
  | run, c :: rest => if c = mark then longestRun mark (run + 1) rest else max run (longestRun mark 0 rest)

/-- The form that a text is written in. -/
def Quotation.of (cs : List Char) : Quotation :=
  let hidden := cs.any isHidden
  let slashed := cs.contains '\\'
  let broken := cs.contains '\n'
  if !hidden && !slashed && !broken && longestRun '"' 0 cs == 0 then basic
  else if !hidden && !broken && longestRun '\'' 0 cs == 0 then literal
  else if !hidden && !slashed && longestRun '"' 0 cs ≤ 2 then basicLines
  else if !hidden && longestRun '\'' 0 cs ≤ 2 then literalLines
  else if broken then basicLines
  else basic

/-- The hexadecimal digit of a number below sixteen. -/
def hexChar (n : Nat) : Char := if n < 10 then Char.ofNat (n + '0'.toNat) else Char.ofNat (n - 10 + 'A'.toNat)

/-- A character other than the quotation mark, between quotation marks. -/
def escapedChar (c : Char) : List Char :=
  if c = '\x08' then ['\\', 'b']
  else if c = '\t' then ['\\', 't']
  else if c = '\n' then ['\\', 'n']
  else if c = '\x0c' then ['\\', 'f']
  else if c = '\r' then ['\\', 'r']
  else if c = '\\' then ['\\', '\\']
  else if isHidden c then ['\\', 'u', '0', '0', hexChar (c.toNat / 16), hexChar (c.toNat % 16)]
  else [c]

/-- A text between quotation marks. `free` quotation marks may follow one another without an escape, and line breaks
stay as they are where `free` is not zero. The second number is how many quotation marks have just been written. -/
def escaped (free : Nat) : Nat → List Char → List Char
  | _, [] => []
  | run, c :: rest =>
    if c = '"' then
      if run < free then '"' :: escaped free (run + 1) rest else '\\' :: '"' :: escaped free 0 rest
    else if c = '\n' ∧ free ≠ 0 then '\n' :: escaped free 0 rest
    else escapedChar c ++ escaped free 0 rest

/-- The line break that stands before a text with line breaks. -/
def leadingBreak (cs : List Char) : List Char := if cs.contains '\n' then ['\n'] else []

/-- A text in the given form. -/
def Quotation.write : Quotation → List Char → List Char
  | basic, cs => '"' :: escaped 0 0 cs ++ ['"']
  | literal, cs => '\'' :: cs ++ ['\'']
  | basicLines, cs => ['"', '"', '"'] ++ leadingBreak cs ++ escaped 2 0 cs ++ ['"', '"', '"']
  | literalLines, cs => ['\'', '\'', '\''] ++ leadingBreak cs ++ cs ++ ['\'', '\'', '\'']

/-- A text. -/
def textForm (s : String) : List Char := (Quotation.of s.toList).write s.toList

/-! ## Keys -/

/-- The characters of a key that stands without marks. -/
def isPlainKeyChar (c : Char) : Bool := c.isAlphanum || c == '_' || c == '-'

/-- A key. -/
def keyForm (k : String) : List Char :=
  let cs := k.toList
  if !cs.isEmpty && cs.all isPlainKeyChar then cs
  else if Quotation.of cs = .literal then Quotation.literal.write cs
  else Quotation.basic.write cs

/-! ## Values -/

/-- An integer in base ten. -/
def integerForm (n : Int) : List Char := if n < 0 then '-' :: decimalText n.natAbs else decimalText n.natAbs

/-- A floating-point number. -/
def floatForm : Binary64 → List Char
  | .notANumber => ['n', 'a', 'n']
  | x => x.plainText.toList

/-- The items of a list: one stands on the line of the brackets, several on lines of their own. -/
def listForm : List (List Char) → List Char
  | [] => ['[', ']']
  | [item] => '[' :: item ++ [']']
  | items => '[' :: '\n' :: items.flatMap (fun item => List.replicate 4 ' ' ++ item ++ [',', '\n']) ++ [']']

mutual

/-- A value behind an equals sign or in a list. -/
def valueForm : Value → List Char
  | .null => []
  | .boolean true => ['t', 'r', 'u', 'e']
  | .boolean false => ['f', 'a', 'l', 's', 'e']
  | .integer n => integerForm n
  | .float x => floatForm x
  | .text s => textForm s
  | .list vs => listForm (itemForms vs)
  | .table es => '{' :: List.intercalate [','] (entryForms es) ++ [' ', '}']

/-- The items of a list. -/
def itemForms : List Value → List (List Char)
  | [] => []
  | v :: vs => valueForm v :: itemForms vs

/-- The entries of a table within braces. -/
def entryForms : List (String × Value) → List (List Char)
  | [] => []
  | (k, v) :: es => (' ' :: keyForm k ++ [' ', '=', ' '] ++ valueForm v) :: entryForms es

end

/-! ## Documents -/

/-- The lines of the entries that are neither null nor a table. -/
def entryLines : List (String × Value) → List Char
  | [] => []
  | (_, .null) :: es => entryLines es
  | (_, .table _) :: es => entryLines es
  | (k, v) :: es => keyForm k ++ [' ', '=', ' '] ++ valueForm v ++ '\n' :: entryLines es

/-- The header of the table that the keys lead to. -/
def headerLine (keys : List String) : List Char := '[' :: List.intercalate ['.'] (keys.map keyForm) ++ [']', '\n']

/-- Whether a table has a section of its own: it has lines, or nothing at all. -/
def hasSection (es : List (String × Value)) : Bool := es.isEmpty || !(entryLines es).isEmpty

mutual

/-- The sections of a value under a key, when it is a table. -/
def sectionsOf (keys : List String) : Value → List (List Char)
  | .table es => (if hasSection es then [headerLine keys ++ entryLines es] else []) ++ subsections keys es
  | _ => []

/-- The sections of the tables among the entries. -/
def subsections (keys : List String) : List (String × Value) → List (List Char)
  | [] => []
  | (k, v) :: es => sectionsOf (keys ++ [k]) v ++ subsections keys es

end

/-- The sections of a document. -/
def sections (es : List (String × Value)) : List (List Char) :=
  (if (entryLines es).isEmpty then [] else [entryLines es]) ++ subsections [] es

/-- The document of a table. -/
def print : Value → String
  | .table es => String.ofList (List.intercalate ['\n'] (sections es))
  | _ => ""

end GatewayRegistrar.Toml
