import GatewayRegistrar.Unicode.CodeSet

/-!
# Tables of character properties

The tables of the Unicode character database are kept as text. A table has one text for each name: the ranges, as
hexadecimal numbers separated by blanks and line ends. Each number is counted from the one before it, so that the
beginning and the length of each range follow one another.
-/

namespace GatewayRegistrar.Unicode

/-- The value of a hexadecimal digit in lower case; zero for any other character. -/
def nibble (c : Char) : Nat :=
  if c.isDigit then c.toNat - '0'.toNat
  else if 'a' ≤ c ∧ c ≤ 'f' then c.toNat - 'a'.toNat + 10
  else 0

/-- The numbers of a text, behind those of `done`, which stand in reverse order. -/
def hexNumbersFrom (done : List Nat) (current : Option Nat) : List Char → List Nat
  | [] => (current.toList ++ done).reverse
  | c :: cs =>
    if c.isWhitespace then hexNumbersFrom (current.toList ++ done) none cs
    else hexNumbersFrom done (some (current.getD 0 * 16 + nibble c)) cs

/-- The numbers of a text, separated by blanks. -/
def hexNumbers (s : String) : List Nat := hexNumbersFrom [] none s.toList

/-- The ranges whose distances and lengths are given, from `start` on. -/
def rangesFrom (start : Nat) : List Nat → List CodeRange
  | gap :: length :: rest => ⟨start + gap, start + gap + length⟩ :: rangesFrom (start + gap + length) rest
  | _ => []

/-- The set of characters that a line of a table gives. -/
def codeSetOfText (s : String) : CodeSet := ⟨rangesFrom 0 (hexNumbers s)⟩

/-- The text behind `name` in a table. -/
def lineOf? (table : List (String × String)) (name : String) : Option String :=
  (table.find? (·.1 = name)).map (·.2)

/-- The set of characters that a table gives for `name`. -/
def codeSetOf? (table : List (String × String)) (name : String) : Option CodeSet :=
  (lineOf? table name).map codeSetOfText

end GatewayRegistrar.Unicode
