import GatewayRegistrar.Text.Digits
import GatewayRegistrar.Value.Basic

/-!
# Numbers in TOML

Integers fit in 64 bits with a sign. Between two digits a single underscore may stand.
-/

namespace GatewayRegistrar.Toml

/-- The digits that follow a digit, without the underscores between them. -/
def moreDigits (isDigit : Char → Bool) : List Char → List Char × List Char
  | [] => ([], [])
  | '_' :: c :: rest =>
    if isDigit c then
      let (ds, rest) := moreDigits isDigit rest
      (c :: ds, rest)
    else ([], '_' :: c :: rest)
  | c :: rest =>
    if isDigit c then
      let (ds, rest) := moreDigits isDigit rest
      (c :: ds, rest)
    else ([], c :: rest)

/-- At least one digit. -/
def someDigits (isDigit : Char → Bool) : Reader (List Char)
  | c :: rest =>
    if isDigit c then
      let (ds, rest) := moreDigits isDigit rest
      some (c :: ds, rest)
    else none
  | [] => none

/-- Decimal digits that begin with a zero only when it is the only one. -/
def wholeDigits : Reader (List Char)
  | '0' :: rest => some (['0'], rest)
  | cs => someDigits Char.isDigit cs

/-- A sign, and whether it is a minus. -/
def takeSign : List Char → Bool × List Char
  | '+' :: rest => (false, rest)
  | '-' :: rest => (true, rest)
  | cs => (false, cs)

/-- An integer of 64 bits. -/
def word? (negative : Bool) (n : Nat) : Option Value :=
  if negative then if n ≤ 1 <<< 63 then some (.integer (-n)) else none
  else if n < 1 <<< 63 then some (.integer n) else none

/-- An integer in the given base, whose digits stand behind a mark. -/
def basedInteger (base : Nat) (isDigit : Char → Bool) : Reader Value := fun cs => do
  let (ds, rest) ← someDigits isDigit cs
  (word? false (numberOf base ds)).map (·, rest)

/-- The digits behind a point. -/
def fractionPart : Reader (List Char)
  | '.' :: rest => someDigits Char.isDigit rest
  | cs => some ([], cs)

/-- The power of ten behind `e`. -/
def exponentPart : Reader Int
  | 'e' :: rest | 'E' :: rest => do
    let (negative, rest) := takeSign rest
    let (ds, rest) ← someDigits Char.isDigit rest
    some (if negative then -(numberOf 10 ds : Int) else numberOf 10 ds, rest)
  | cs => some (0, cs)

/-- Whether a point or a power of ten follows. -/
def isFraction (cs : List Char) : Bool := cs.head?.any fun c => c == '.' || c == 'e' || c == 'E'

/-- A number in base ten, whose sign has been read. One that is too large upwards is refused. -/
def decimalNumber (negative : Bool) : Reader Value := fun cs => do
  let (whole, rest) ← wholeDigits cs
  if isFraction rest then
    let (fraction, rest) ← fractionPart rest
    let (exponent, rest) ← exponentPart rest
    let x := Binary64.ofDecimal negative (numberOf 10 (whole ++ fraction)) (exponent - fraction.length)
    if x = .infinite false then none else some (.float x, rest)
  else (word? negative (numberOf 10 whole)).map (·, rest)

/-- A number. -/
def number : Reader Value
  | '0' :: 'x' :: rest => basedInteger 16 (fun c => (hexDigit? c).isSome) rest
  | '0' :: 'o' :: rest => basedInteger 8 (fun c => c.isDigit && digitValue c < 8) rest
  | '0' :: 'b' :: rest => basedInteger 2 (fun c => c == '0' || c == '1') rest
  | cs =>
    match takeSign cs with
    | (negative, 'i' :: 'n' :: 'f' :: rest) => some (.float (.infinite negative), rest)
    | (_, 'n' :: 'a' :: 'n' :: rest) => some (.float .notANumber, rest)
    | (negative, cs) => decimalNumber negative cs

end GatewayRegistrar.Toml
