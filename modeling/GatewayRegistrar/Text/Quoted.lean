import GatewayRegistrar.Unicode.Category
import GatewayRegistrar.Unicode.Property
import GatewayRegistrar.Decimal.Shortest

/-!
# Quoted text in messages

A text inside a message stands between double quotes and shows every character that a reader could not see: controls,
unassigned and private characters, blanks other than the space, and marks that extend the character before them.
-/

namespace GatewayRegistrar

/-- The characters without a visible form of their own, apart from the space. -/
def invisible : CodeSet :=
  ["Cc", "Cf", "Cs", "Co", "Cn", "Zl", "Zp", "Zs"].foldl (fun s name => s.union (Unicode.category name)) .empty

/-- The characters that extend the one before them. -/
def extending : CodeSet := Unicode.property "Grapheme_Extend"

/-- Whether a character is shown by its code. -/
def shownByCode (c : Char) : Bool :=
  if c.toNat < 0x7F then c.toNat < 0x20 else extending.holds c || invisible.holds c

/-- A code in hexadecimal digits, in lower case. -/
def hexText (n : Nat) : List Char := Nat.toDigits 16 n

/-- A character inside double quotes. -/
def quotedCharacter (c : Char) : List Char :=
  match c with
  | '\x00' => ['\\', '0']
  | '\t' => ['\\', 't']
  | '\r' => ['\\', 'r']
  | '\n' => ['\\', 'n']
  | '\\' => ['\\', '\\']
  | '"' => ['\\', '"']
  | _ => if shownByCode c then ['\\', 'u', '{'] ++ hexText c.toNat ++ ['}'] else [c]

/-- A character of a file name inside double quotes, where an apostrophe is escaped too. -/
def quotedPathCharacter (c : Char) : List Char :=
  if c = '\'' then ['\\', '\''] else quotedCharacter c

/-- The text in double quotes. -/
def quotedForm (s : String) : String := String.ofList ('"' :: s.toList.flatMap quotedCharacter ++ ['"'])

/-- The file name in double quotes. -/
def quotedPath (s : String) : String := String.ofList ('"' :: s.toList.flatMap quotedPathCharacter ++ ['"'])

end GatewayRegistrar
