import GatewayRegistrar.CommandLine.Level
import GatewayRegistrar.Text.Digits

/-!
# Reading a command line

The words of a command line are read one after the other. A value that is still to come, or has just come, is settled
when the next switch or operand begins, or at the end; what is wrong with it shows only then. A level above another is
settled after the one below it.
-/

namespace GatewayRegistrar.CommandLine

/-- What is wrong with a command line. -/
inductive UsageFault where
  | unknownArgument
  | invalidSubcommand
  | missingRequiredArgument
  | invalidValue
  | valueValidation
  | argumentConflict
  | tooManyValues
  | missingSubcommand
  | nothingGiven
deriving DecidableEq, Repr

/-- The name of the fault. -/
def UsageFault.name : UsageFault → String
  | unknownArgument => "UnknownArgument"
  | invalidSubcommand => "InvalidSubcommand"
  | missingRequiredArgument => "MissingRequiredArgument"
  | invalidValue => "InvalidValue"
  | valueValidation => "ValueValidation"
  | argumentConflict => "ArgumentConflict"
  | tooManyValues => "TooManyValues"
  | missingSubcommand => "MissingSubcommand"
  | nothingGiven => "DisplayHelpOnMissingArgumentOrSubcommand"

/-- What help is about: a level, or the help command of a level. -/
inductive Topic where
  | level (l : Level)
  | helpCommand (l : Level)
deriving DecidableEq, Repr

/-- Why reading ends before a command is known. -/
inductive Stop where
  | fault (f : UsageFault)
  | help (topic : Topic) (isLong : Bool)
  | version
deriving DecidableEq, Repr

/-- What the switches and the operand of a level say, in the order in which they were given. -/
abbrev Given := List (Key × String)

/-- The state of reading a level: what has been given, and a switch or an operand that is not settled yet, with its
value if it has come. -/
structure Progress where
  given : Given := []
  open? : Option (Switch × Option String) := none
deriving DecidableEq, Repr

/-- The bound of the numbers on a command line. -/
def wordBound : Nat := 1 <<< 64

/-- What is wrong with a value. -/
def valueFault? (argument : Argument) (v : String) : Option UsageFault :=
  match argument with
  | .path => if v.isEmpty then some .invalidValue else none
  | .word => if (wholeBelow? wordBound v.toList).isNone then some .valueValidation else none
  | .nothing | .text => none

namespace Progress

/-- Whether a switch has been given. -/
def has (p : Progress) (key : Key) : Bool := p.given.any (·.1 = key)

/-- Adds a switch with its value. -/
def add (p : Progress) (s : Switch) (v : String) : Except Stop Progress :=
  if !s.isRepeatable && p.has s.key then .error (.fault .argumentConflict)
  else
    match valueFault? s.argument v with
    | some f => .error (.fault f)
    | none => .ok { p with given := p.given ++ [(s.key, v)] }

/-- Settles what is not settled yet. -/
def settle (p : Progress) : Except Stop Progress :=
  match p.open? with
  | none => .ok p
  | some (_, none) => .error (.fault .invalidValue)
  | some (s, some v) => add { p with open? := none } s v

/-- Takes a switch that nothing follows. -/
def takeFlag (l : Level) (isLong : Bool) (s : Switch) (p : Progress) : Except Stop Progress := do
  let p ← p.settle
  match s.key with
  | .help => .error (.help (.level l) isLong)
  | .version => .error .version
  | _ => p.add s ""

/-- Takes a switch with the value behind its equals sign, or opens it when the value is still to come. -/
def takeOption (s : Switch) (attached? : Option String) (p : Progress) : Except Stop Progress := do
  let p ← p.settle
  match attached? with
  | some v => p.add s v
  | none => .ok { p with open? := some (s, none) }

/-- The open switch whose value is still to come. -/
def waiting? (p : Progress) : Option Switch :=
  match p.open? with
  | some (s, none) => some s
  | _ => none

/-- Whether the operand has come. -/
def hasOperand (p : Progress) : Bool := p.has .expression || p.open?.any (·.1.key = .expression)

/-- Takes a word that begins with two hyphens. -/
def takeLong (l : Level) (body : List Char) (p : Progress) : Except Stop Progress :=
  let name := body.takeWhile (· ≠ '=')
  let attached? : Option String :=
    match body.dropWhile (· ≠ '=') with
    | _ :: v => some (String.ofList v)
    | [] => none
  match l.longSwitch? name with
  | none => .error (.fault .unknownArgument)
  | some s =>
    match s.argument, attached? with
    | .nothing, none => p.takeFlag l true s
    | .nothing, some _ => .error (.fault .tooManyValues)
    | _, attached? => p.takeOption s attached?

/-- Takes the short names in a word that begins with one hyphen. What stands behind the name of a switch that takes a
value is this value, perhaps behind an equals sign. -/
def takeShorts (l : Level) : List Char → Progress → Except Stop Progress
  | [], p => .ok p
  | c :: cs, p =>
    match l.shortSwitch? c with
    | none => .error (.fault .unknownArgument)
    | some s =>
      if s.argument = .nothing then do
        let p ← p.takeFlag l false s
        takeShorts l cs p
      else
        match cs with
        | [] => p.takeOption s none
        | '=' :: v => p.takeOption s (some (String.ofList v))
        | v => p.takeOption s (some (String.ofList v))

/-- Takes a word that can only be the operand; `isPlain` holds when no `--` stands before it. -/
def takeOperand (l : Level) (isPlain : Bool) (word : String) (p : Progress) : Except Stop Progress :=
  match l.operand? with
  | some s =>
    if p.hasOperand then .error (.fault .unknownArgument)
    else do
      let p ← p.settle
      .ok { p with open? := some (s, some word) }
  | none =>
    if l.isGroup ∧ (isPlain ∨ ((l.next? word).isNone ∧ word ≠ "help")) then .error (.fault .invalidSubcommand)
    else .error (.fault .unknownArgument)

/-- Closes a level at which the command line ends. -/
def finish (l : Level) (p : Progress) : Except Stop Given := do
  let p ← p.settle
  if l.isGroup then
    if p.given.isEmpty then .error (.fault .nothingGiven) else .error (.fault .missingSubcommand)
  else if l.operand?.isSome ∧ !p.has .expression then .error (.fault .missingRequiredArgument)
  else .ok p.given

end Progress

/-- What the words behind `help` ask for, starting at a level. -/
def helpTopic (l : Level) : List String → Except Stop Topic
  | [] => .ok (.level l)
  | word :: rest =>
    match l.next? word with
    | some deeper => helpTopic deeper rest
    | none =>
      if l.isGroup ∧ word = "help" ∧ rest.isEmpty then .ok (.helpCommand l) else .error (.fault .invalidSubcommand)

/-- Reads the words behind `--`, none of which is a switch or leads to another level. -/
def readOperands (l : Level) : Progress → List String → Except Stop Given
  | p, [] => p.finish l
  | p, word :: rest => do
    let p ← p.takeOperand l false word
    readOperands l p rest

/-- Reads the words at a level and below it. The result has what was given at each level, from this one down to the
last. -/
def readLevel (l : Level) (p : Progress) : List String → Except Stop (List (Level × Given))
  | [] => do return [(l, ← p.finish l)]
  | word :: rest =>
    match p.waiting?, l.next? word with
    | none, some deeper => do
      let path ← readLevel deeper {} rest
      let p ← p.settle
      return (l, p.given) :: path
    | waiting?, _ =>
      if waiting?.isNone ∧ l.isGroup ∧ word = "help" then do
        .error (.help (← helpTopic l rest) true)
      else
        match word.toList with
        | ['-', '-'] => do return [(l, ← readOperands l p rest)]
        | '-' :: '-' :: body => do
          let p ← p.takeLong l body
          readLevel l p rest
        | '-' :: c :: cs => do
          let p ← p.takeShorts l (c :: cs)
          readLevel l p rest
        | _ =>
          match waiting? with
          | some s => readLevel l { p with open? := some (s, some word) } rest
          | none => do
            let p ← p.takeOperand l true word
            readLevel l p rest

end GatewayRegistrar.CommandLine
