import GatewayRegistrar.Value.Basic
import GatewayRegistrar.Decimal.Shortest

/-!
# Writing JSON

`Json.compact` writes a value on one line without blanks, `Json.pretty` with one item or entry on each line. In a
quoted text the quote, the backslash and the control characters below the space are escaped, and nothing else.
-/

namespace GatewayRegistrar.Json

/-- The hexadecimal digit of a number below sixteen. -/
def hexChar (n : Nat) : Char := if n < 10 then Char.ofNat (n + '0'.toNat) else Char.ofNat (n - 10 + 'a'.toNat)

/-- A character as it stands in a quoted text. -/
def escapedChar (c : Char) : List Char :=
  if c = '"' then ['\\', '"']
  else if c = '\\' then ['\\', '\\']
  else if c = '\n' then ['\\', 'n']
  else if c = '\r' then ['\\', 'r']
  else if c = '\t' then ['\\', 't']
  else if c = '\x08' then ['\\', 'b']
  else if c = '\x0c' then ['\\', 'f']
  else if c.toNat < 0x20 then ['\\', 'u', '0', '0', hexChar (c.toNat / 16), hexChar (c.toNat % 16)]
  else [c]

/-- A text in quotes. -/
def quoted (s : String) : List Char := '"' :: s.toList.flatMap escapedChar ++ ['"']

/-- An integer in base ten. -/
def integerText (n : Int) : List Char := if n < 0 then '-' :: decimalText n.natAbs else decimalText n.natAbs

/-- Where the parts of lists and tables stand: on one line, or each on a line of its own with two blanks for each
level. -/
inductive Layout where
  | compact
  | indented (level : Nat)

namespace Layout

/-- The layout of what stands one level deeper. -/
def deeper : Layout → Layout
  | compact => compact
  | indented n => indented (n + 1)

/-- What stands before a part at this level. -/
def lineStart : Layout → List Char
  | compact => []
  | indented n => '\n' :: List.replicate (2 * n) ' '

/-- What stands between a key and its value. -/
def colon : Layout → List Char
  | compact => [':']
  | indented _ => [':', ' ']

end Layout

mutual

/-- A value in the given layout. -/
def write (layout : Layout) : Value → List Char
  | .null => "null".toList
  | .boolean true => "true".toList
  | .boolean false => "false".toList
  | .integer n => integerText n
  | .float x => if x.isFinite then x.compactText.toList else "null".toList
  | .text s => quoted s
  | .list [] => ['[', ']']
  | .list (v :: vs) =>
    '[' :: layout.deeper.lineStart ++ write layout.deeper v ++ writeItems layout.deeper vs ++ layout.lineStart ++ [']']
  | .table [] => ['{', '}']
  | .table ((k, v) :: es) =>
    '{' :: layout.deeper.lineStart ++ quoted k ++ layout.colon ++ write layout.deeper v
      ++ writeEntries layout.deeper es ++ layout.lineStart ++ ['}']

/-- The items behind the first one. -/
def writeItems (layout : Layout) : List Value → List Char
  | [] => []
  | v :: vs => ',' :: layout.lineStart ++ write layout v ++ writeItems layout vs

/-- The entries behind the first one. -/
def writeEntries (layout : Layout) : List (String × Value) → List Char
  | [] => []
  | (k, v) :: es => ',' :: layout.lineStart ++ quoted k ++ layout.colon ++ write layout v ++ writeEntries layout es

end

/-- The value on one line. -/
def compact (v : Value) : String := String.ofList (write .compact v)

/-- The value with one part on each line. -/
def pretty (v : Value) : String := String.ofList (write (.indented 0) v)

end GatewayRegistrar.Json
