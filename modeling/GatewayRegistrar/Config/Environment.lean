import GatewayRegistrar.Config.Basic

/-!
# Settings from the environment

Environment variables override the configuration. `CONSUL_HTTP_ADDR` gives the address of the agent; a variable whose
name begins with `GATEWAY_SYNC_` gives the setting that the rest of its name says, and counts more. A variable that
cannot be used changes nothing.
-/

namespace GatewayRegistrar

/-- Environment variables: names with their values. -/
abbrev Environment := List (String × String)

/-- Whether an address says by which protocol the agent is reached. -/
def hasScheme (address : String) : Bool :=
  startsWith "http://".toList address.toList || startsWith "https://".toList address.toList

/-- The address, with a scheme before it when it has none. -/
def withScheme (address : String) : String := if hasScheme address then address else "http://" ++ address

/-- A setting with its value. -/
inductive Setting where
  | region (name : String)
  | address (address : String)
  | datacenter (name : String)
  | interval (text : String)
  | compactTags (on : Bool)
  | port (number : UInt16)
deriving DecidableEq, Repr

namespace Setting

/-- The configuration with the setting in place. -/
def apply (c : Config) : Setting → Config
  | region name => { c with region := name }
  | address a => { c with agent := { c.agent with address := a } }
  | datacenter name => { c with agent := { c.agent with datacenter? := some name } }
  | interval text => { c with polling := { c.polling with interval := text } }
  | compactTags on => { c with polling := { c.polling with compactTags := on } }
  | port number => { c with policy := { c.policy with port := number } }

end Setting

/-- Why a variable gives no setting. -/
inductive OverrideFault where
  | unknown (path : String)
  | notBoolean (path value : String)
  | notPort (path value : String)
deriving DecidableEq, Repr

/-- What is wrong with the variable, in words. -/
def OverrideFault.message : OverrideFault → String
  | unknown path => "Unknown env config key: " ++ path
  | notBoolean path value => "Invalid configuration value at " ++ path ++ ": Cannot parse '" ++ value ++ "' as boolean"
  | notPort path value => "Invalid configuration value at " ++ path ++ ": Cannot parse '" ++ value ++ "' as port"

namespace Setting

/-- The truth value that a text names. -/
def booleanOf? (s : String) : Option Bool :=
  if s = "true" then some true else if s = "false" then some false else none

/-- The port that a text names. -/
def portOf? (s : String) : Option UInt16 := (wholeBelow? 65536 s.toList).map UInt16.ofNat

/-- The setting that `path` names, with the given value. -/
def ofPath (path value : String) : Except OverrideFault Setting :=
  if path = "AWS__REGION" then .ok (.region value)
  else if path = "CONSUL__ADDRESS" then .ok (.address (withScheme value))
  else if path = "CONSUL__DATACENTER" then .ok (.datacenter value)
  else if path = "SYNC__INTERVAL" then .ok (.interval value)
  else if path = "SYNC__COMPACT_TAGS" then
    match booleanOf? value with
    | some on => .ok (.compactTags on)
    | none => .error (.notBoolean path value)
  else if path = "REGISTRATION__PORT" then
    match portOf? value with
    | some number => .ok (.port number)
    | none => .error (.notPort path value)
  else .error (.unknown path)

/-- What the name of a variable says behind the mark of this program; `none` for a variable without the mark. -/
def pathOf? (name : String) : Option String := (dropStart? "GATEWAY_SYNC_".toList name.toList).map String.ofList

/-- The setting that a variable gives, or why it gives none; `none` for a variable that does not concern this
program. -/
def ofVariable? (entry : String × String) : Option (Except OverrideFault Setting) :=
  (pathOf? entry.1).map (ofPath · entry.2)

end Setting

namespace Config

/-- The configuration with the address that the agent's own variable gives. -/
def withAgentVariable (env : Environment) (c : Config) : Config :=
  match entryOf? "CONSUL_HTTP_ADDR" env with
  | some a => Setting.apply c (.address (withScheme a))
  | none => c

/-- The configuration with the setting of one variable. -/
def withVariable (c : Config) (entry : String × String) : Config :=
  match Setting.ofVariable? entry with
  | some (.ok s) => Setting.apply c s
  | _ => c

/-- The configuration with the settings of the environment. -/
def override (env : Environment) (c : Config) : Config := env.foldl withVariable (c.withAgentVariable env)

end Config

/-- The variables that ought to give a setting and do not, with the reason. -/
def overrideFaults (env : Environment) : List (String × OverrideFault) :=
  env.filterMap fun entry =>
    match Setting.ofVariable? entry with
    | some (.error fault) => some (entry.1, fault)
    | _ => none

end GatewayRegistrar
