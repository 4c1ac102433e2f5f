import GatewayRegistrar.Template.Scope
import GatewayRegistrar.Decimal.Shortest
import GatewayRegistrar.Json.Parser

/-!
# Helpers

Helpers are the operations that tags may call. Some give a value; the others fill in the body of a block, and have the
empty text as their value.
-/

namespace GatewayRegistrar

/-- The text of a value in a template. -/
def Value.plain : Value → String
  | .null => ""
  | .boolean b => if b then "true" else "false"
  | .integer n => toString n
  | .float x => x.compactText
  | .text s => s
  | .list items => "[" ++ plainItems items ++ "]"
  | .table _ => "[object]"
where
  plainItems : List Value → String
    | [] => ""
    | [v] => v.plain
    | v :: rest => v.plain ++ ", " ++ plainItems rest

mutual

/-- Whether two values are the same. Integers differ from floating-point numbers. -/
def Value.same : Value → Value → Bool
  | .null, .null => true
  | .boolean a, .boolean b => a == b
  | .integer a, .integer b => a == b
  | .float a, .float b => a.compare? b == some .eq
  | .text a, .text b => a == b
  | .list a, .list b => Value.sameItems a b
  | .table a, .table b => Value.sameEntries a b
  | _, _ => false

/-- Whether two lists have the same items. -/
def Value.sameItems : List Value → List Value → Bool
  | [], [] => true
  | v :: vs, w :: ws => v.same w && Value.sameItems vs ws
  | _, _ => false

/-- Whether two sorted tables have the same entries. -/
def Value.sameEntries : List (String × Value) → List (String × Value) → Bool
  | [], [] => true
  | (k, v) :: es, (l, w) :: fs => k == l && v.same w && Value.sameEntries es fs
  | _, _ => false

end

namespace Template

/-- Whether a value counts as true. Zero does so only on request. -/
def isTruthy (includeZero : Bool) : Value → Bool
  | .boolean b => b
  | .integer n => includeZero || n != 0
  | .float x =>
    match x with
    | .finite _ m _ => includeZero || 1 <<< 52 ≤ m
    | .infinite _ => includeZero
    | .notANumber => false
  | .null => false
  | .text s => !s.isEmpty
  | .list items => !items.isEmpty
  | .table entries => !entries.isEmpty

/-- The number that a text writes, if it holds nothing else. -/
def numberOfText? (s : String) : Option Value :=
  match Json.number .exactly s.toList with
  | some (v, []) => some v
  | _ => none

/-- The order of two numbers, which are compared exactly. -/
def orderOfNumbers? : Value → Value → Option Ordering
  | .integer a, .integer b => some (compare a b)
  | .integer a, .float y => Binary64.compareInt? a y
  | .float x, .integer b => (Binary64.compareInt? b x).map Ordering.swap
  | .float x, .float y => x.compare? y
  | _, _ => none

/-- The order of two values that can be ordered: numbers, texts, truth values, and a number beside a text that writes
one. -/
def order? : Value → Value → Option Ordering
  | .text a, .text b => some (compare a b)
  | .boolean a, .boolean b => some (compare a b)
  | .text a, w => (numberOfText? a).bind (orderOfNumbers? · w)
  | v, .text b => (numberOfText? b).bind (orderOfNumbers? v ·)
  | v, w => orderOfNumbers? v w

/-- The helpers. -/
inductive Helper where
  | ifTrue
  | unlessTrue
  | each
  | within
  | lookUp
  | verbatim
  | log
  | compare (holds : Value → Value → Bool)
  | all
  | any
  | negation
  | size

/-- Whether the first value stands to the second in one of the given orders. -/
def inOrder (allowed : List Ordering) (v w : Value) : Bool := (order? v w).any allowed.contains

/-- The helper with a name. -/
def helperNamed? : String → Option Helper
  | "if" => some .ifTrue
  | "unless" => some .unlessTrue
  | "each" => some .each
  | "with" => some .within
  | "lookup" => some .lookUp
  | "raw" => some .verbatim
  | "log" => some .log
  | "eq" => some (.compare Value.same)
  | "ne" => some (.compare fun v w => !v.same w)
  | "gt" => some (.compare (inOrder [.gt]))
  | "gte" => some (.compare (inOrder [.gt, .eq]))
  | "lt" => some (.compare (inOrder [.lt]))
  | "lte" => some (.compare (inOrder [.lt, .eq]))
  | "and" => some .all
  | "or" => some .any
  | "not" => some .negation
  | "len" => some .size
  | _ => none

/-- Whether the helper gives a truth value, between whose cases a block may choose. -/
def Helper.isTest : Helper → Bool
  | compare _ | all | any | negation => true
  | _ => false

/-- A call of a helper: the name, the arguments and the options. -/
structure Invocation where
  name : String
  arguments : List Operand
  options : List (String × Operand)

namespace Invocation

/-- The argument at an index, which has to be there. -/
def argument (i : Invocation) (helper : String) (index : Nat) : Except FaultKind Operand :=
  match i.arguments[index]? with
  | some o => .ok o
  | none => .error (.noArgument helper index)

/-- The value of the argument at an index, which has to be there and to have one. -/
def presentArgument (i : Invocation) (index : Nat) : Except FaultKind Value :=
  match i.arguments[index]? with
  | some o => if o.found.isMissing then .error (.noArgument i.name index) else .ok o.found.value
  | none => .error (.noArgument i.name index)

/-- The value of an option. -/
def option? (i : Invocation) (name : String) : Option Value := (entryOf? name i.options).map (·.found.value)

/-- The condition of the helpers `if` and `unless`. -/
def condition (i : Invocation) : Except FaultKind Bool := do
  let o ← i.argument "if" 0
  let includeZero :=
    match i.option? "includeZero" with
    | some (.boolean b) => b
    | _ => false
  return isTruthy includeZero o.found.value

/-- Whether the level of a log message, if it is given, is a known one. -/
def checkLevel (i : Invocation) : Except FaultKind Unit :=
  match i.option? "level" with
  | some (.text level) =>
    if ["error", "warn", "info", "debug", "trace"].contains (String.ofList (level.toList.map Char.toLower)) then .ok ()
    else .error (.unknownLogLevel level)
  | _ => .ok ()

/-- The member of the first argument that the second one names. -/
def member (i : Invocation) : Except FaultKind Value := do
  let collection ← i.argument "lookup" 0
  let key ← i.argument "lookup" 1
  let found :=
    match collection.found.value, key.found.value with
    | .list items, .integer (.ofNat n) => items[n]?
    | .table entries, .text k => entryOf? k entries
    | _, _ => none
  match found with
  | some v => return v
  | none => throw (.noValue none)

/-- The number of members of the argument; for a text that of its bytes. -/
def length (i : Invocation) : Except FaultKind Nat :=
  match i.arguments[0]? with
  | none => .error (.noNamedArgument "len" "x")
  | some o =>
    if o.found.isMissing then .error (.noNamedArgument "len" "x")
    else
      match o.found.value with
      | .list items => .ok items.length
      | .table entries => .ok entries.length
      | .text s => .ok s.utf8ByteSize
      | _ => .ok 0

end Invocation

/-- The value of a call; the helpers that only fill in bodies have none. -/
def Helper.value? (h : Helper) (i : Invocation) : Except FaultKind (Option Value) :=
  match h with
  | .ifTrue | .unlessTrue | .each | .within | .verbatim | .log => .ok none
  | .lookUp => i.member.map some
  | .compare holds => do
    let v ← i.presentArgument 0
    let w ← i.presentArgument 1
    return some (.boolean (holds v w))
  | .all => .ok (some (.boolean (i.arguments.all fun o => isTruthy false o.found.value)))
  | .any => .ok (some (.boolean (i.arguments.any fun o => isTruthy false o.found.value)))
  | .negation => do
    let v ← i.presentArgument 0
    return some (.boolean (!isTruthy false v))
  | .size => do
    let n ← i.length
    return some (.integer n)

/-- Checks a call of a helper that fills in a body, where there is no body. -/
def Helper.checkWithoutBody (h : Helper) (i : Invocation) : Except FaultKind Unit :=
  match h with
  | .ifTrue | .unlessTrue => i.condition.map fun _ => ()
  | .each => (i.argument "each" 0).map fun _ => ()
  | .within => do
    let o ← i.argument "with" 0
    if isTruthy false o.found.value then return else throw (.noValue o.written)
  | .log => i.checkLevel
  | _ => .ok ()

/-- The value of a call inside a tag. -/
def Invocation.value (i : Invocation) : Except FaultKind Value :=
  match helperNamed? i.name with
  | none => .error (.unknownHelper i.name)
  | some h => do
    match ← h.value? i with
    | some v => return v
    | none =>
      h.checkWithoutBody i
      return .text ""

end Template

end GatewayRegistrar
