import GatewayRegistrar.Value.Basic
import GatewayRegistrar.Decimal.Shortest
import GatewayRegistrar.Text.Quoted

/-!
# Decoding values

A decoder turns a value into something more definite or names the first fault it meets. Faults are met in the order
of the entries of a table; a missing field is noticed only after all entries, in the order in which fields are
declared.
-/

namespace GatewayRegistrar

/-- What a decoder asks for. -/
inductive Expectation where
  | text
  | boolean
  | port
  | map
  | sequence
  | unit
  | record (name : String)
  | textOrMap
deriving DecidableEq, Repr

namespace Expectation

/-- The words for it in a message. -/
def describe : Expectation → String
  | text => "a string"
  | boolean => "a boolean"
  | port => "u16"
  | map => "a map"
  | sequence => "a sequence"
  | unit => "unit"
  | record name => "struct " ++ name
  | textOrMap => "string or map"

end Expectation

/-- Why a value could not be decoded. -/
inductive DecodeFault where
  | wrongType (found : Value) (expected : Expectation)
  | outOfRange (n : Int) (expected : Expectation)
  | tooShort (length : Nat) (record : String) (fields : Nat)
  | tooLong (length : Nat)
  | missing (field : String)
  | repeated (field : String)
  | unknownVariant (found : String) (known : String)
  | notOneKey
deriving Repr

/-- A decoder of values. -/
abbrev Decoder (α : Type) := Value → Except DecodeFault α

namespace DecodeFault

/-- The words for a value in a message. Floating-point numbers are written as the notation of the document does. -/
def describe (floatText : Binary64 → String) : Value → String
  | .null => "null"
  | .boolean b => "boolean `" ++ (if b then "true" else "false") ++ "`"
  | .integer n => "integer `" ++ toString n ++ "`"
  | .float x => "floating point `" ++ floatText x ++ "`"
  | .text s => "string " ++ quotedForm s
  | .list _ => "sequence"
  | .table _ => "map"

/-- The message for a fault. -/
def message (floatText : Binary64 → String) : DecodeFault → String
  | wrongType found expected => "invalid type: " ++ describe floatText found ++ ", expected " ++ expected.describe
  | outOfRange n expected => "invalid value: integer `" ++ toString n ++ "`, expected " ++ expected.describe
  | tooShort length record fields =>
    "invalid length " ++ toString length ++ ", expected struct " ++ record ++ " with " ++ toString fields
      ++ (if fields = 1 then " element" else " elements")
  | tooLong length => "invalid length " ++ toString length ++ ", expected fewer elements in array"
  | missing field => "missing field `" ++ field ++ "`"
  | repeated field => "duplicate field `" ++ field ++ "`"
  | unknownVariant found known => "unknown variant `" ++ found ++ "`, expected `" ++ known ++ "`"
  | notOneKey => "invalid value: map, expected map with a single key"

end DecodeFault

namespace Decoder

/-- A text. -/
def text : Decoder String
  | .text s => .ok s
  | v => .error (.wrongType v .text)

/-- A text or null. -/
def optionalText : Decoder (Option String)
  | .null => .ok none
  | v => (text v).map some

/-- A truth value. -/
def boolean : Decoder Bool
  | .boolean b => .ok b
  | v => .error (.wrongType v .boolean)

/-- A port number. -/
def port : Decoder UInt16
  | .integer n => if 0 ≤ n ∧ n < 65536 then .ok (UInt16.ofNat n.toNat) else .error (.outOfRange n .port)
  | v => .error (.wrongType v .port)

/-- A list whose items are decoded in order. -/
def listOf {α : Type} (item : Decoder α) : Decoder (List α)
  | .list vs => vs.mapM item
  | v => .error (.wrongType v .sequence)

/-- A table whose values are decoded in order; the result is in normal form. -/
def mapOf {α : Type} (item : Decoder α) : Decoder (List (String × α))
  | .table es => do
    let decoded ← es.mapM fun (k, v) => do return (k, ← item v)
    return sortEntries decoded
  | v => .error (.wrongType v .map)

/-- Decodes and drops the result. -/
def check {α : Type} (item : Decoder α) : Decoder Unit := fun v => (item v).map fun _ => ()

end Decoder

/-- The fields of a record, with what each has to be. -/
abbrev FieldChecks := List (String × Decoder Unit)

/-- Looks for the first fault among the entries: a value that its field does not allow, or a field that stands twice.
Other keys are free. -/
def checkEntries (fields : FieldChecks) (seen : List String) : List (String × Value) → Except DecodeFault Unit
  | [] => .ok ()
  | (k, v) :: rest =>
    match entryOf? k fields with
    | none => checkEntries fields seen rest
    | some item =>
      if k ∈ seen then .error (.repeated k)
      else do
        item v
        checkEntries fields (k :: seen) rest

/-- The field `key`, which has to be there. -/
def requiredField {α : Type} (key : String) (item : Decoder α) (entries : List (String × Value)) :
    Except DecodeFault α :=
  match entryOf? key entries with
  | some v => item v
  | none => .error (.missing key)

/-- The field `key`, or `fallback` when it is absent. -/
def optionalField {α : Type} (key : String) (item : Decoder α) (fallback : α) (entries : List (String × Value)) :
    Except DecodeFault α :=
  match entryOf? key entries with
  | some v => item v
  | none => .ok fallback

/-- Names the items of a list as the fields of a record, in their order. Required fields come first, and the list has
to reach at least over those. -/
def itemsAsEntries (record : String) (required : Nat) (fields : FieldChecks) (items : List Value) :
    Except DecodeFault (List (String × Value)) := do
  let entries := (fields.map (·.1)).zip items
  checkEntries fields [] entries
  if items.length < required then .error (.tooShort items.length record fields.length)
  else .ok entries

/-- The entries of a record, which may be written as a table or as a list of its fields in order. A list that is too
long is a fault where `strict` holds. -/
def recordEntries (record : String) (required : Nat) (strict : Bool) (fields : FieldChecks) :
    Value → Except DecodeFault (List (String × Value))
  | .table entries => do
    checkEntries fields [] entries
    return entries
  | .list items => do
    let entries ← itemsAsEntries record required fields items
    if strict ∧ fields.length < items.length then .error (.tooLong items.length) else .ok entries
  | v => .error (.wrongType v (.record record))

end GatewayRegistrar
