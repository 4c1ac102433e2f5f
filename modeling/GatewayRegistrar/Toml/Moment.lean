import GatewayRegistrar.Text.Digits
import GatewayRegistrar.Value.Basic

/-!
# Dates and times in TOML

A date, a time of day, or both, then perhaps with the distance from universal time. Data formats without dates carry a
moment as a table with one reserved key, under which its text stands.
-/

namespace GatewayRegistrar.Toml

/-- The key of a moment. -/
def momentKey : String := "$__toml_private_datetime"

/-- The moment with the given text. -/
def moment (cs : List Char) : Value := .table [(momentKey, .text (String.ofList cs))]

/-- A number of exactly `width` digits between two bounds, with its digits. -/
def fixedNumber (width low high : Nat) : Reader (Nat × List Char) := fun cs =>
  let ds := cs.take width
  let n := numberOf 10 ds
  if ds.length = width ∧ ds.all Char.isDigit ∧ low ≤ n ∧ n ≤ high then some ((n, ds), cs.drop width) else none

/-- A given character. -/
def mark (c : Char) : List Char → Option (List Char)
  | d :: rest => if d = c then some rest else none
  | [] => none

/-- Whether a year has a leap day. -/
def isLeapYear (y : Nat) : Bool := y % 4 == 0 && (y % 100 != 0 || y % 400 == 0)

/-- The number of days in a month. -/
def daysIn (year month : Nat) : Nat :=
  if month = 2 then if isLeapYear year then 29 else 28
  else if month = 4 ∨ month = 6 ∨ month = 9 ∨ month = 11 then 30
  else 31

/-- A date. -/
def date : Reader (List Char) := fun cs => do
  let ((y, year), cs) ← fixedNumber 4 0 9999 cs
  let ((m, month), cs) ← fixedNumber 2 1 12 (← mark '-' cs)
  let ((_, day), cs) ← fixedNumber 2 1 (daysIn y m) (← mark '-' cs)
  some (year ++ '-' :: month ++ '-' :: day, cs)

/-- A part of a second, to nine places and without zeros at the end. -/
def fractionOfSecond : Reader (List Char)
  | '.' :: rest =>
    let ds := rest.takeWhile Char.isDigit
    if ds.isEmpty then none
    else
      let kept := ((ds.take 9).reverse.dropWhile (· == '0')).reverse
      some (if kept.isEmpty then [] else '.' :: kept, rest.dropWhile Char.isDigit)
  | cs => some ([], cs)

/-- A time of day; a minute may have a leap second. -/
def timeOfDay : Reader (List Char) := fun cs => do
  let ((_, hour), cs) ← fixedNumber 2 0 23 cs
  let ((_, minute), cs) ← fixedNumber 2 0 59 (← mark ':' cs)
  let ((_, second), cs) ← fixedNumber 2 0 60 (← mark ':' cs)
  let (fraction, cs) ← fractionOfSecond cs
  some (hour ++ ':' :: minute ++ ':' :: second ++ fraction, cs)

/-- The distance from universal time; without one, a minus sign is not kept. -/
def offset : Reader (List Char)
  | 'Z' :: rest | 'z' :: rest => some (['Z'], rest)
  | c :: rest =>
    if c = '+' ∨ c = '-' then do
      let ((h, hours), cs) ← fixedNumber 2 0 23 rest
      let ((m, minutes), cs) ← fixedNumber 2 0 59 (← mark ':' cs)
      some ((if h = 0 ∧ m = 0 then '+' else c) :: hours ++ ':' :: minutes, cs)
    else some ([], c :: rest)
  | [] => some ([], [])

/-- The time behind a date, when there is one. -/
def timeBehindDate : Reader (List Char)
  | c :: rest =>
    if c = 'T' ∨ c = 't' ∨ c = ' ' then
      match timeOfDay rest with
      | some (time, rest) => (offset rest).map fun (distance, rest) => ('T' :: time ++ distance, rest)
      | none => some ([], c :: rest)
    else some ([], c :: rest)
  | [] => some ([], [])

/-- A date, a date with a time, or a time. -/
def momentText : Reader (List Char) := fun cs =>
  match date cs with
  | some (day, rest) => (timeBehindDate rest).map fun (time, rest) => (day ++ time, rest)
  | none => timeOfDay cs

end GatewayRegistrar.Toml
