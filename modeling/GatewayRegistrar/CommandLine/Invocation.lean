import GatewayRegistrar.CommandLine.Reader
import GatewayRegistrar.Config.Environment

/-!
# Invocations

What a command line asks for: one of the commands, with its options, and what holds for every command.
-/

namespace GatewayRegistrar.CommandLine

/-- Options that stand above the configuration. -/
structure Options where
  region? : Option String := none
  filters : List String := []
  exclusions : List String := []
  tags : List String := []
  sleep? : Option Nat := none
  address? : Option String := none
deriving DecidableEq, Repr

namespace Options

/-- The list, unless it is empty. -/
def listOr (given fallback : List String) : List String := if given.isEmpty then fallback else given

/-- The configuration with the options in place. A list that is given takes the place of the configured one. -/
def applyTo (o : Options) (c : Config) : Config :=
  { c with
    region := o.region?.getD c.region
    agent := { c.agent with address := o.address?.getD c.agent.address }
    polling := { c.polling with
      interval := (o.sleep?.map fun n => String.ofList (decimalText n ++ ['s'])).getD c.polling.interval
      filters := listOr o.filters c.polling.filters
      exclusions := listOr o.exclusions c.polling.exclusions
      tags := listOr o.tags c.polling.tags } }

end Options

/-- A command. -/
inductive Command where
  | run (options : Options)
  | sync (options : Options) (dryRun : Bool) (resources? : Option String)
  | checkFilter (expression : String)
  | showConfig
  | validateConfig (file? : Option String)
  | initConfig (force : Bool)
deriving DecidableEq, Repr

/-- What a command line asks for. -/
structure Invocation where
  config? : Option String
  verbose : Bool
  logJson : Bool
  command : Command
deriving DecidableEq, Repr

/-- All values of a key, in order. -/
def valuesOf (key : Key) (given : Given) : List String := (given.filter (·.1 = key)).map (·.2)

/-- The last value of a key. -/
def valueOf? (key : Key) (given : Given) : Option String := (valuesOf key given).getLast?

/-- Whether a key was given. -/
def isGiven (key : Key) (given : Given) : Bool := given.any (·.1 = key)

/-- The options among what was given. -/
def optionsOf (given : Given) : Options where
  region? := valueOf? .region given
  filters := valuesOf .filter given
  exclusions := valuesOf .exclude given
  tags := valuesOf .tag given
  sleep? := (valueOf? .sleep given).bind (wholeBelow? wordBound ·.toList)
  address? := valueOf? .address given

/-- The command of a level; none for a group. -/
def commandOf? (given : Given) : Level → Option Command
  | .run => some (.run (optionsOf given))
  | .sync => some (.sync (optionsOf given) (isGiven .dryRun given) (valueOf? .resources given))
  | .filterCheck => (valueOf? .expression given).map .checkFilter
  | .configShow => some .showConfig
  | .configValidate => some (.validateConfig (valueOf? .file given))
  | .configInit => some (.initConfig (isGiven .force given))
  | .program | .filter | .config => none

/-- What was given along a path of levels. For every command the deepest level counts most. -/
def invocationOf? (path : List (Level × Given)) : Option Invocation := do
  let (last, given) ← path.getLast?
  let all := path.flatMap (·.2)
  let command ← commandOf? given last
  return { config? := valueOf? .config all, verbose := isGiven .verbose all, logJson := isGiven .logJson all, command }

/-- Reads the words behind the name of the program. -/
def parse (words : List String) : Except Stop Invocation := do
  let path ← readLevel .program {} words
  match invocationOf? path with
  | some i => .ok i
  | none => .error (.fault .missingSubcommand)

end GatewayRegistrar.CommandLine
