/-!
# Binary floating-point numbers

A number of 64 bits is kept exactly, as a sign, an integer below `2 ^ 53` and a power of two. Every operation is the
exact result, rounded once to the nearest number, where a tie goes to the even one.
-/

namespace GatewayRegistrar

/-- A binary floating-point number of 64 bits. A finite number is `± mantissa * 2 ^ exponent`, with the least
exponent that keeps the mantissa below `2 ^ 53`, and no exponent below `-1074`. -/
inductive Binary64 where
  | finite (negative : Bool) (mantissa : Nat) (exponent : Int)
  | infinite (negative : Bool)
  | notANumber
deriving DecidableEq, Repr, Inhabited

namespace Binary64

/-- The quotient rounded to the nearest integer; a tie goes to the even one. -/
def roundQuotient (num den : Nat) : Nat :=
  let q := num / den
  let r := num % den
  if 2 * r < den then q
  else if den < 2 * r then q + 1
  else if q % 2 = 0 then q else q + 1

/-- The number nearest to `± num / den`. -/
def ofQuotient (negative : Bool) (num den : Nat) : Binary64 :=
  if num = 0 then .finite negative 0 (-1074)
  else
    -- the quotient lies between 2 ^ (e + 52) and 2 ^ (e + 54)
    let e : Int := (num.log2 : Int) - (den.log2 : Int) - 53
    let scaled (e : Int) : Nat × Nat := (num <<< (-e).toNat, den <<< e.toNat)
    let e := if (scaled e).2 <<< 53 ≤ (scaled e).1 then e + 1 else e
    let e := max e (-1074)
    let m := roundQuotient (scaled e).1 (scaled e).2
    let (m, e) := if m = 1 <<< 53 then (1 <<< 52, e + 1) else (m, e)
    if 971 < e then .infinite negative else .finite negative m e

/-- The number of decimal digits of `n`, at least one. -/
def decimalWidth (n : Nat) : Nat := (Nat.toDigits 10 n).length

/-- The number nearest to `± digits * 10 ^ exponent`. Exponents far outside the range are settled by their size. -/
def ofDecimal (negative : Bool) (digits : Nat) (exponent : Int) : Binary64 :=
  if digits = 0 then .finite negative 0 (-1074)
  else if 400 < exponent + decimalWidth digits then .infinite negative
  else if exponent + decimalWidth digits < -400 then .finite negative 0 (-1074)
  else ofQuotient negative (digits * Nat.pow 10 exponent.toNat) (Nat.pow 10 (-exponent).toNat)

/-- Whether the number is finite. -/
def isFinite : Binary64 → Bool
  | .finite .. => true
  | _ => false

/-- The exact value of a finite number as a fraction with a positive denominator. -/
def fraction (negative : Bool) (m : Nat) (e : Int) : Int × Nat :=
  let n : Int := (m <<< e.toNat : Nat)
  (if negative then -n else n, 1 <<< (-e).toNat)

/-- The order of two numbers; `none` when one of them is not a number. -/
def compare? : Binary64 → Binary64 → Option Ordering
  | .notANumber, _ | _, .notANumber => none
  | .infinite a, .infinite b => some (compare (!a) (!b))
  | .infinite a, .finite .. => some (if a then .lt else .gt)
  | .finite .., .infinite b => some (if b then .gt else .lt)
  | .finite s m e, .finite t n f =>
    let (a, b) := fraction s m e
    let (c, d) := fraction t n f
    some (compare (a * d) (c * b))

/-- The order of an integer and a number, both taken exactly; `none` when the latter is not a number. -/
def compareInt? (n : Int) : Binary64 → Option Ordering
  | .notANumber => none
  | .infinite negative => some (if negative then .gt else .lt)
  | .finite s m e =>
    let (a, b) := fraction s m e
    some (compare (n * b) a)

/-- The quotient of the magnitudes of two finite numbers, under the sign of the first. -/
def divideBy : Binary64 → Binary64 → Binary64
  | .finite s m e, .finite _ n f =>
    ofQuotient s (m <<< (e - f).toNat) (n <<< (f - e).toNat)
  | x, _ => x

/-- The product of the magnitudes of two finite numbers, under the sign of the first. -/
def multiplyBy : Binary64 → Binary64 → Binary64
  | .finite s m e, .finite _ n f =>
    ofQuotient s ((m * n) <<< (e + f).toNat) (1 <<< (-(e + f)).toNat)
  | x, _ => x

end Binary64

end GatewayRegistrar
