import GatewayRegistrar.Text.Blank
import GatewayRegistrar.Text.Cut
import GatewayRegistrar.Text.Digits
import GatewayRegistrar.Decimal.Shortest

/-!
# Intervals

The pause between two cycles is written as a whole number with a unit: `ms`, `s`, `m` or `h`, or none for seconds. The
number and the seconds that it stands for have to fit in 64 bits.
-/

namespace GatewayRegistrar

/-- A length of time, in whole milliseconds. -/
structure Interval where
  milliseconds : Nat
deriving DecidableEq, Repr

namespace Interval

/-- The bound of the numbers in intervals, and of the seconds in them. -/
def bound : Nat := 1 <<< 64

/-- The units that are written out, with the milliseconds in each. `ms` ends in `s` and comes before it. -/
def units : List (List Char × Nat) := [(['m', 's'], 1), (['s'], 1000), (['m'], 60000), (['h'], 3600000)]

/-- The number before the first unit that ends the text, with the milliseconds in this unit. -/
def splitUnit (cs : List Char) : List (List Char × Nat) → List Char × Nat
  | [] => (cs, 1000)
  | (unit, size) :: rest =>
    match dropEnding? unit cs with
    | some number => (number, size)
    | none => splitUnit cs rest

/-- Reads an interval; blanks around it have no meaning. -/
def ofText? (s : String) : Option Interval := do
  let (number, size) := splitUnit (trimBlanks s.toList) units
  let n ← wholeBelow? bound number
  if n * size / 1000 < bound then some ⟨n * size⟩ else none

/-- The whole seconds. -/
def seconds (i : Interval) : Nat := i.milliseconds / 1000

/-- What is left beyond the whole seconds, in nanoseconds. -/
def nanoseconds (i : Interval) : Nat := i.milliseconds % 1000 * 1000000

/-- Whether no time passes. -/
def isZero (i : Interval) : Bool := i.milliseconds == 0

/-- The digits behind the point for a number of thousandths, without zeros at the end. -/
def thousandths (n : Nat) : List Char :=
  let ds := decimalText n
  ((List.replicate (3 - ds.length) '0' ++ ds).reverse.dropWhile (· == '0')).reverse

/-- The interval in its largest unit of seconds, milliseconds and nanoseconds. -/
def toText (i : Interval) : String :=
  let rest := i.milliseconds % 1000
  if 0 < i.seconds then
    String.ofList (decimalText i.seconds ++ (if rest = 0 then [] else '.' :: thousandths rest) ++ ['s'])
  else if 0 < rest then String.ofList (decimalText rest ++ ['m', 's'])
  else "0ns"

end Interval

end GatewayRegistrar
