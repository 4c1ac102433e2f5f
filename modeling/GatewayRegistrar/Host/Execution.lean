import GatewayRegistrar.CommandLine.Help
import GatewayRegistrar.CommandLine.Invocation
import GatewayRegistrar.Host.Basic
import GatewayRegistrar.Json.Parser
import GatewayRegistrar.Json.Printer

/-!
# Running commands

What each command does on a host. A command that fails tells why; its exit code says whether it has failed, whether it
has broken off, or whether the command line was of no use.
-/

namespace GatewayRegistrar

open CommandLine

namespace Action

variable {σ : Type}

/-! ## Configurations -/

/-- The path of the configuration: the given one, or the usual one. -/
def configPath (host : Host σ) : Option String → Action σ String
  | some path => pure path
  | none =>
    match host.configHome? with
    | some home => pure (joinPath home "gateway-sync/config.toml")
    | none => throw .noConfigHome

/-- Accepts a valid configuration. What is told about useless filters does not depend on that. -/
def checkConfig (c : Config) : Action σ Config := do
  tell (c.uselessFilters.map .filterUseless)
  orFail .load c.validated

/-- Lets the environment override a configuration. -/
def overrideConfig (host : Host σ) (c : Config) : Action σ Config := do
  tell ((overrideFaults host.environment).map fun (name, fault) => .overrideRejected name fault)
  return c.override host.environment

/-- Saves a configuration in a file. -/
def saveConfig (path : String) (c : Config) : Action σ Unit :=
  changeFiles .writeConfig path (·.writeText path c.toDocument)

/-- Loads the configuration of a file. -/
def readConfig (host : Host σ) (path : String) : Action σ Config := do
  if !(← fileExists path) then throw (.configNotFound path)
  let document ← readFile .readConfig path
  let c ← orFail (fun fault => .load (.document fault)) (Config.ofDocument host.now document)
  checkConfig (← overrideConfig host c)

/-- The configuration that a command goes by: that of the file, or the standard one where there is no file, under the
environment and the options. -/
def loadConfig (host : Host σ) (path? : Option String) (options : Options) : Action σ Config := do
  let path ← configPath host path?
  let base ←
    if ← fileExists path then readConfig host path
    else do
      tell [.configMissing]
      overrideConfig host (.standard host.now)
  checkConfig (options.applyTo base)

/-! ## Cycles -/

/-- Reads the resources of a file. -/
def readResources (path : String) : Action σ (List Resource) := do
  let text ← readFile .readResources path
  match Json.parseSelected? Resource.selection text with
  | none => throw (.resources path none)
  | some v => orFail (fun fault => .resources path (some fault)) (Decoder.listOf Resource.decode v)

/-- The configuration of a watch, and its pause. -/
def prepareWatch (host : Host σ) (path? : Option String) (options : Options) : Action σ (Config × Interval) := do
  let c ← loadConfig host path? options
  match c.polling.pause? with
  | none => throw (.interval c.polling.interval)
  | some interval =>
    tell [.providerClientMade c.region]
    return (c, interval)

/-- Watches until a signal stops it. -/
def watch (host : Host σ) (path? : Option String) (options : Options) : Action σ Completion := do
  let (c, interval) ← prepareWatch host path? options
  let w := c.settings.watch host.room (host.sink c.agent) interval (host.list c.region) (← get).catalog host.pauses
  tell w.events
  modify fun world => { world with catalog := w.state }
  return w.ending?.getD .done

/-- The listing for a single cycle: the resources of a file, with their tags in the orders of the host, or what the
provider lists. -/
def listOnce (host : Host σ) (c : Config) : Option String → Action σ Listing
  | some path => do return .ok ((← readResources path).mapIdx fun n r => r.inOrder (host.tagOrders n))
  | none => return host.list c.region 0

/-- The line about a cycle that is over. -/
def reportLine (r : Report) : String :=
  "✓ Registered " ++ toString r.registered ++ "/" ++ toString r.eligible ++ " services (" ++ toString r.discovered
    ++ " discovered, " ++ toString r.skipped ++ " skipped, " ++ toString r.failed ++ " failed)"

/-- Prints what a cycle would register. -/
def dryRun (room : Nat) (s : Settings) (listing : Listing) : Action σ Completion := do
  let resources ← orFail .listing listing
  tell (s.planEvents room resources)
  match s.plan room resources with
  | none => return .aborted
  | some p =>
    printLine (Json.pretty (.list (p.registrations.map (·.encode))))
    tell [.dryRunComplete p.report]
    return .done

/-- Runs a single cycle. -/
def cycle (host : Host σ) (c : Config) (listing : Listing) : Action σ Completion := do
  let done := c.settings.runCycle host.room (host.sink c.agent) listing (← get).catalog
  modify fun world => { world with catalog := done.state }
  tell (c.settings.cycleEvents host.room listing done)
  match done.outcome? with
  | none => return .aborted
  | some outcome =>
    printLine (reportLine (← orFail .listing outcome))
    return .done

/-- Runs a single cycle, or shows what it would do. -/
def sync (host : Host σ) (path? : Option String) (options : Options) (dry : Bool) (resources? : Option String) :
    Action σ Completion := do
  let c ← loadConfig host path? options
  let listing ← listOnce host c resources?
  if dry then dryRun host.room c.settings listing else cycle host c listing

/-! ## Other commands -/

/-- Checks a filter expression. -/
def checkFilter (expression : String) : Action σ Unit := do
  let f ← orFail .filter (Filter.ofText? expression)
  let _ ← orFail .filter f.compile
  printLine "✓ Filter is valid"
  printLine ("  Tag:     " ++ f.tagKey)
  printLine ("  Pattern: " ++ f.pattern)

/-- Shows the configuration. -/
def showConfig (host : Host σ) (path? : Option String) : Action σ Unit := do
  let c ← loadConfig host path? {}
  printLine (Json.pretty c.encode)

/-- Checks the configuration of a file. -/
def validateConfig (host : Host σ) (path? : Option String) : Action σ Unit := do
  let c ← readConfig host (← configPath host path?)
  printLine "✓ Configuration is valid"
  printLine ("  Schema version: " ++ c.metadata.schemaVersion)

/-- Writes the standard configuration, unless there is something at the path already and `force` does not hold. -/
def initConfig (host : Host σ) (path? : Option String) (force : Bool) : Action σ Unit := do
  let path ← configPath host path?
  if (← fileExists path) && !force then do
    printLine ("Configuration file already exists at: " ++ path)
    printLine "Use --force to overwrite"
  else do
    match parentPath? path with
    | some parent => makeDirectories .makeConfigDirectory parent
    | none => pure ()
    saveConfig path (.standard host.now)
    printLine ("✓ Configuration initialized at: " ++ path)

/-- A command that does not break off. -/
def toDone (a : Action σ Unit) : Action σ Completion := do
  a
  return .done

/-- Does what a command line asks for. -/
def ofInvocation (host : Host σ) (i : Invocation) : Action σ Completion :=
  match i.command with
  | .run options => watch host i.config? options
  | .sync options dry resources? => sync host i.config? options dry resources?
  | .checkFilter expression => (checkFilter expression).toDone
  | .showConfig => (showConfig host i.config?).toDone
  | .validateConfig file? => (validateConfig host (file? <|> i.config?)).toDone
  | .initConfig force => (initConfig host i.config? force).toDone

end Action

/-- What becomes of the world, and the exit code. -/
structure Ending (σ : Type) where
  world : World σ
  exitCode : UInt8

/-- The exit code of a command that has not failed. One that breaks off is ended by a signal (6), which a shell adds to
128. -/
def Completion.exitCode : Completion → UInt8
  | done => 0
  | aborted => 134

variable {σ : Type}

/-- Runs an action to its end. -/
def Action.finish (a : Action σ Completion) (w : World σ) : Ending σ :=
  match StateT.run (ExceptT.run a) w with
  | (.ok c, w) => ⟨w, c.exitCode⟩
  | (.error f, w) => ⟨{ w with notices := w.notices ++ [.told (.commandFailed f)] }, 1⟩

/-- Runs the program: its name and the words behind it. -/
def runProgram (host : Host σ) (program : String) (words : List String) (w : World σ) : Ending σ :=
  match CommandLine.parse words with
  | .ok i => (Action.ofInvocation host i).finish w
  | .error (.help topic isLong) =>
    ⟨{ w with notices := w.notices ++ [.printed (helpText (programName program) topic isLong)] }, 0⟩
  | .error .version => ⟨{ w with notices := w.notices ++ [.printed versionText] }, 0⟩
  | .error (.fault _) => ⟨w, 2⟩

end GatewayRegistrar
