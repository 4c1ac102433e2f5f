import GatewayRegistrar.Value.Basic
import GatewayRegistrar.Text.Digits

/-!
# Reading JSON

`Json.parse?` reads one JSON value and nothing after it. Tables keep repeated keys. An integer beyond the range of
64-bit words is read as a floating-point number, and so is `-0`. `Json.parseSelected?` reads only what is asked for:
what stands under other keys need only have the form of a value.
-/

namespace GatewayRegistrar.Json

/-- The blanks of JSON. -/
def isJsonBlank (c : Char) : Bool := c == ' ' || c == '\n' || c == '\t' || c == '\r'

/-- The text from the first character that is no blank. -/
def skipBlanks (cs : List Char) : List Char := cs.dropWhile isJsonBlank

/-- Four hexadecimal digits. -/
def fourHex : Reader Nat
  | a :: b :: c :: d :: rest => do
    let a ← hexDigit? a
    let b ← hexDigit? b
    let c ← hexDigit? c
    let d ← hexDigit? d
    some (((a * 16 + b) * 16 + c) * 16 + d, rest)
  | _ => none

/-- How a value is read. One that is not asked for is read by its form: the units in its texts need not be those of
characters, its numbers may be of any size, and it may be nested to any depth. -/
inductive Manner where
  | exactly
  | byForm
deriving DecidableEq, Repr

/-- The character written as one or two 16-bit units, the first of which is `unit`. -/
def unitsChar (m : Manner) (unit : Nat) (rest : List Char) : Option (Char × List Char) :=
  if unit < 0xD800 ∨ 0xDFFF < unit then some (Char.ofNat unit, rest)
  else if m = .byForm then some ('?', rest)
  else if 0xDBFF < unit then none
  else
    match rest with
    | '\\' :: 'u' :: rest => do
      let (low, rest) ← fourHex rest
      if 0xDC00 ≤ low ∧ low ≤ 0xDFFF then
        some (Char.ofNat (0x10000 + (unit - 0xD800) * 0x400 + (low - 0xDC00)), rest)
      else none
    | _ => none

/-- One character of a quoted text. -/
def quotedChar (m : Manner) : Reader Char
  | '\\' :: 'u' :: rest => do
    let (unit, rest) ← fourHex rest
    unitsChar m unit rest
  | '\\' :: c :: rest =>
    match c with
    | '"' => some ('"', rest)
    | '\\' => some ('\\', rest)
    | '/' => some ('/', rest)
    | 'b' => some ('\x08', rest)
    | 'f' => some ('\x0c', rest)
    | 'n' => some ('\n', rest)
    | 'r' => some ('\r', rest)
    | 't' => some ('\t', rest)
    | _ => none
  | c :: rest => if c.toNat < 0x20 ∨ c = '\\' then none else some (c, rest)
  | [] => none

/-- The characters up to the closing quote. The first argument bounds their number. -/
def quotedChars (m : Manner) : Nat → Reader (List Char)
  | 0, _ => none
  | _ + 1, '"' :: rest => some ([], rest)
  | n + 1, cs => do
    let (c, rest) ← quotedChar m cs
    let (more, rest) ← quotedChars m n rest
    some (c :: more, rest)

/-- A quoted text, whose opening quote has been read. -/
def quotedText (m : Manner) : Reader String := fun cs => do
  let (chars, rest) ← quotedChars m (cs.length + 1) cs
  some (String.ofList chars, rest)

/-- Appends digits to a number as long as it stays below `2 ^ 64`; also how many digits were left out. -/
def takeDigits (n : Nat) : List Char → Nat × Nat
  | [] => (n, 0)
  | d :: ds => if n * 10 + digitValue d < 1 <<< 64 then takeDigits (n * 10 + digitValue d) ds else (n, ds.length + 1)

/-- Scales by a power of ten in the arithmetic of 64-bit numbers: one rounding for the digits, one for the power and
one for each product or quotient. -/
def scaleByTens (x : Binary64) (exponent : Int) : Binary64 :=
  if 0 ≤ exponent then
    if 308 < exponent then
      match x with
      | .finite _ 0 _ => x
      | .finite s _ _ => .infinite s
      | _ => x
    else x.multiplyBy (.ofDecimal false 1 exponent)
  else if -308 ≤ exponent then x.divideBy (.ofDecimal false 1 (-exponent))
  else (x.divideBy (.ofDecimal false 1 308)).divideBy (.ofDecimal false 1 (min 308 (-exponent - 308)))

/-- The exponent behind `e`: a sign and at least one digit. -/
def exponentPart (cs : List Char) : Option (Int × List Char) :=
  let (negative, cs) :=
    match cs with
    | '+' :: rest => (false, rest)
    | '-' :: rest => (true, rest)
    | _ => (false, cs)
  let digits := cs.takeWhile Char.isDigit
  if digits.isEmpty then none
  else
    let n : Int := numberOf 10 digits
    some (if negative then -n else n, cs.dropWhile Char.isDigit)

/-- The number with the given digits before and behind the point, and power of ten. -/
def decimalValue (negative : Bool) (whole fraction : List Char) (exponent : Int) : Value :=
  let (n, dropped) := takeDigits 0 whole
  let (n, unread) := takeDigits n fraction
  let places : Int := (fraction.length : Int) - (unread : Int)
  let exponent := exponent + (dropped : Int) - places
  .float (scaleByTens (.ofQuotient negative n 1) exponent)

/-- The integer with the given digits, as a floating-point number when no 64-bit word holds it. -/
def integerValue (negative : Bool) (whole : List Char) : Value :=
  let n := numberOf 10 whole
  if negative then
    if 0 < n ∧ n ≤ 1 <<< 63 then .integer (-n) else decimalValue true whole [] 0
  else if n < 1 <<< 64 then .integer n
  else decimalValue false whole [] 0

/-- A number, which is infinite when it is too large for a floating-point number of 64 bits. -/
def anyNumber (cs : List Char) : Option (Value × List Char) :=
  let (negative, cs) :=
    match cs with
    | '-' :: rest => (true, rest)
    | _ => (false, cs)
  let whole := cs.takeWhile Char.isDigit
  let rest := cs.dropWhile Char.isDigit
  if whole.isEmpty ∨ (whole.head? = some '0' ∧ 1 < whole.length) then none
  else do
    let (fraction, rest) ←
      match rest with
      | '.' :: more =>
        if (more.takeWhile Char.isDigit).isEmpty then none
        else some (some (more.takeWhile Char.isDigit), more.dropWhile Char.isDigit)
      | _ => some (none, rest)
    let (exponent, rest) ←
      match rest with
      | 'e' :: more | 'E' :: more => (exponentPart more).map fun (e, rest) => (some e, rest)
      | _ => some (none, rest)
    let v :=
      match fraction, exponent with
      | none, none => integerValue negative whole
      | _, _ => decimalValue negative whole (fraction.getD []) (exponent.getD 0)
    some (v, rest)

/-- A number. One that is too large is refused unless only its form counts. -/
def number (m : Manner) (cs : List Char) : Option (Value × List Char) :=
  match anyNumber cs with
  | some (.float (.infinite s), rest) => if m = .byForm then some (.float (.infinite s), rest) else none
  | found => found

/-- The items up to the closing bracket, at least one of them; the first argument bounds their number. -/
def items (value : Reader Value) : Nat → Reader (List Value)
  | 0, _ => none
  | n + 1, cs => do
    let (v, rest) ← value (skipBlanks cs)
    match skipBlanks rest with
    | ',' :: rest => do
      let (vs, rest) ← items value n rest
      some (v :: vs, rest)
    | ']' :: rest => some ([v], rest)
    | _ => none

/-- The entries up to the closing brace, at least one of them; the first argument reads the value under a key, and the
second one bounds their number. -/
def entries (m : Manner) (value : String → Reader Value) : Nat → Reader (List (String × Value))
  | 0, _ => none
  | n + 1, cs =>
    match skipBlanks cs with
    | '"' :: rest => do
      let (key, rest) ← quotedText m rest
      match skipBlanks rest with
      | ':' :: rest => do
        let (v, rest) ← value key (skipBlanks rest)
        match skipBlanks rest with
        | ',' :: rest => do
          let (more, rest) ← entries m value n rest
          some ((key, v) :: more, rest)
        | '}' :: rest => some ([(key, v)], rest)
        | _ => none
      | _ => none
    | _ => none

/-- A value that is neither a list nor a table. -/
def scalar (m : Manner) : Reader Value
  | 'n' :: 'u' :: 'l' :: 'l' :: rest => some (.null, rest)
  | 't' :: 'r' :: 'u' :: 'e' :: rest => some (.boolean true, rest)
  | 'f' :: 'a' :: 'l' :: 's' :: 'e' :: rest => some (.boolean false, rest)
  | '"' :: rest => (quotedText m rest).map fun (s, rest) => (.text s, rest)
  | cs => number m cs

/-- A list, whose opening bracket has been read. -/
def listOf (value : Reader Value) : Reader Value := fun cs =>
  match skipBlanks cs with
  | ']' :: rest => some (.list [], rest)
  | _ => (items value (cs.length + 1) cs).map fun (vs, rest) => (.list vs, rest)

/-- A table, whose opening brace has been read. -/
def tableOf (m : Manner) (value : String → Reader Value) : Reader Value := fun cs =>
  match skipBlanks cs with
  | '\x7d' :: rest => some (.table [], rest)
  | _ => (entries m value (cs.length + 1) cs).map fun (es, rest) => (.table es, rest)

/-- How deep lists and tables may stand in one another. -/
def nestingLimit : Nat := 127

/-- A value that stands first in the text. The second argument is how deep lists and tables may stand in it. -/
def value (m : Manner) (depth : Nat) (cs : List Char) : Option (Value × List Char) :=
  match depth with
  | 0 => scalar m cs
  | n + 1 =>
    match cs with
    | '[' :: rest => listOf (value m n) rest
    | '\x7b' :: rest => tableOf m (fun _ => value m n) rest
    | _ => scalar m cs

/-! ## What is asked for -/

/-- What is asked for: all of a value, a part of each item of a list, or the values under some keys of a table. -/
inductive Selection where
  | whole
  | items (each : Selection)
  | fields (keys : List String)
deriving DecidableEq, Repr

/-- A value that is not asked for. -/
def unselected : Reader Value := fun cs => (value .byForm cs.length cs).map fun (_, rest) => (.null, rest)

/-- A value of which only a part is asked for; the rest is null. The last argument is how deep lists and tables may
stand in what is asked for. -/
def selected : Selection → Nat → Reader Value
  | .items each, depth + 1, '[' :: rest => listOf (selected each depth) rest
  | .fields keys, depth + 1, '\x7b' :: rest =>
    tableOf .exactly (fun key => if key ∈ keys then value .exactly depth else unselected) rest
  | _, depth, cs => value .exactly depth cs

/-- The value of a JSON text of which only a part is asked for. -/
def parseSelected? (selection : Selection) (s : String) : Option Value := do
  let (v, rest) ← selected selection nestingLimit (skipBlanks s.toList)
  if (skipBlanks rest).isEmpty then some v else none

/-- The value of a JSON text. -/
def parse? (s : String) : Option Value := parseSelected? .whole s

end GatewayRegistrar.Json
