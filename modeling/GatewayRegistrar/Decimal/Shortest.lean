import GatewayRegistrar.Decimal.Binary64

/-!
# Shortest decimals

The decimal text of a floating-point number has the fewest digits that still round to that number, and of those the
nearest to it. Two notations are used: positional, and with an exponent outside a range.
-/

namespace GatewayRegistrar

/-- A decimal number, `digits * 10 ^ exponent`. -/
structure Decimal where
  digits : Nat
  exponent : Int
deriving DecidableEq, Repr

namespace Decimal

/-- Compares `a * 10 ^ i` with `n * 2 ^ j`. -/
def compareScaled (a : Nat) (i : Int) (n : Nat) (j : Int) : Ordering :=
  compare ((a * Nat.pow 10 i.toNat) <<< (-j).toNat) ((n * Nat.pow 10 (-i).toNat) <<< j.toNat)

/-- Whether the decimal lies among the numbers that round to `m * 2 ^ e`. -/
def readsBack (m : Nat) (e : Int) (d : Decimal) : Bool :=
  let narrow := m == 1 <<< 52 && decide (-1074 < e)
  let low := if narrow then 4 * m - 1 else 4 * m - 2
  let high := 4 * m + 2
  let closed := m % 2 == 0
  let atLow := compareScaled d.digits d.exponent low (e - 2)
  let atHigh := compareScaled d.digits d.exponent high (e - 2)
  (atLow == .gt || (closed && atLow == .eq)) && (atHigh == .lt || (closed && atHigh == .eq))

/-- The nearer of the two neighbours of `m * 2 ^ e` on the grid of step `10 ^ g` that round to it. -/
def onGrid? (m : Nat) (e g : Int) : Option Decimal :=
  let num := (m * Nat.pow 10 (-g).toNat) <<< e.toNat
  let den := Nat.pow 10 g.toNat <<< (-e).toNat
  let below : Decimal := ⟨num / den, g⟩
  let above : Decimal := ⟨num / den + 1, g⟩
  match readsBack m e below, readsBack m e above with
  | true, false => some below
  | false, true => some above
  | false, false => none
  | true, true =>
    let r := num % den
    if 2 * r < den then some below
    else if den < 2 * r then some above
    else if below.digits % 2 = 0 then some below else some above

/-- Moves the zeros at the end of the digits into the exponent; the first argument bounds their number. -/
def strip : Nat → Decimal → Decimal
  | 0, d => d
  | n + 1, d => if d.digits ≠ 0 ∧ d.digits % 10 = 0 then strip n ⟨d.digits / 10, d.exponent + 1⟩ else d

/-- The least `k` with `m * 2 ^ e < 10 ^ k`, found from an estimate. -/
def scale (m : Nat) (e : Int) : Int :=
  let estimate := ((m.log2 : Int) + e) * 30103 / 100000 - 1
  ((List.range 5).map fun (i : Nat) => estimate + (i : Int)).find? (fun k => compareScaled 1 k m e == .gt)
    |>.getD (estimate + 4)

/-- The decimal with the fewest digits that rounds to `m * 2 ^ e`, for `m` above zero. -/
def shortest (m : Nat) (e : Int) : Decimal :=
  let k := scale m e
  match (List.range 17).findSome? fun (i : Nat) => onGrid? m e (k - 1 - (i : Int)) with
  | some d => strip 20 d
  | none => ⟨(m * Nat.pow 5 (-e).toNat) <<< e.toNat, min e 0⟩

end Decimal

/-- The digits of a natural number in base ten. -/
def decimalText (n : Nat) : List Char := Nat.toDigits 10 n

namespace Binary64

/-- The digits with a point so that `digits * 10 ^ exponent` is meant, and at least one digit on either side of it. -/
def positional (d : Decimal) : List Char :=
  let ds := decimalText d.digits
  if 0 ≤ d.exponent then ds ++ List.replicate d.exponent.toNat '0' ++ ['.', '0']
  else
    let places := (-d.exponent).toNat
    let padded := List.replicate (places + 1 - ds.length) '0' ++ ds
    padded.take (padded.length - places) ++ '.' :: padded.drop (padded.length - places)

/-- The first digit, the others behind a point, and a signed exponent. -/
def scientific (d : Decimal) : List Char :=
  let ds := decimalText d.digits
  let e := d.exponent + (ds.length : Int) - 1
  let mantissa :=
    match ds with
    | first :: second :: rest => first :: '.' :: second :: rest
    | _ => ds
  mantissa ++ 'e' :: (if e < 0 then '-' else '+') :: decimalText e.natAbs

/-- The text of a number: positional when `inRange` holds of the exponent of its leading digit. -/
def textWith (inRange : Int → Bool) : Binary64 → List Char
  | .notANumber => "NaN".toList
  | .infinite negative => if negative then "-inf".toList else "inf".toList
  | .finite negative m e =>
    let body :=
      if m = 0 then "0.0".toList
      else
        let d := Decimal.shortest m e
        if inRange (d.exponent + (decimalText d.digits).length - 1) then positional d else scientific d
    if negative then '-' :: body else body

/-- The text without an exponent, with at least one digit behind the point. -/
def plainText (x : Binary64) : String := String.ofList (x.textWith fun _ => true)

/-- The text with an exponent below `10 ^ -5` and from `10 ^ 16` on. -/
def compactText (x : Binary64) : String := String.ofList (x.textWith fun k => -5 ≤ k && k < 16)

end Binary64

end GatewayRegistrar
