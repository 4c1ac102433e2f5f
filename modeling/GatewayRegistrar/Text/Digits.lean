/-!
# Digits

Numbers written in a base, and readers, which take what stands first in a text.
-/

namespace GatewayRegistrar

/-- A reader of what stands first in a text; it returns what follows as well. -/
abbrev Reader (α : Type) := List Char → Option (α × List Char)

/-- The value of a decimal digit. -/
def digitValue (c : Char) : Nat := c.toNat - '0'.toNat

/-- The value of a hexadecimal digit. -/
def hexDigit? (c : Char) : Option Nat :=
  if c.isDigit then some (digitValue c)
  else if 'a' ≤ c ∧ c ≤ 'f' then some (c.toNat - 'a'.toNat + 10)
  else if 'A' ≤ c ∧ c ≤ 'F' then some (c.toNat - 'A'.toNat + 10)
  else none

/-- The number with the given digits, the first of which counts most. -/
def numberOf (base : Nat) (digits : List Char) : Nat :=
  digits.foldl (fun n d => n * base + (hexDigit? d).getD 0) 0

/-- The digits behind an optional plus sign. -/
def withoutPlus : List Char → List Char
  | '+' :: rest => rest
  | cs => cs

/-- A whole number below `bound`: at least one decimal digit, behind an optional plus sign. -/
def wholeBelow? (bound : Nat) (cs : List Char) : Option Nat :=
  let digits := withoutPlus cs
  if !digits.isEmpty && digits.all Char.isDigit && numberOf 10 digits < bound then some (numberOf 10 digits) else none

end GatewayRegistrar
