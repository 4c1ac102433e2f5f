import GatewayRegistrar.Host.Execution
import Std.Async.Select
import Std.Async.Signal
import Std.Async.Timer
import Std.Time

/-!
# The program

Runs the commands on the machine: what they need to know is read before, and what they have said and changed is carried
out behind. No network is used, so the provider lists nothing and the catalog cannot be reached.
-/

namespace GatewayRegistrar.Program

/-- The time in universal time. -/
def currentTime : IO String := do
  let t ← Std.Time.Timestamp.now
  return (Std.Time.DateTime.ofTimestampWithZone t .UTC).format "uuuu-MM-dd'T'HH:mm:ss.SSSSSSSSSxxx"

/-- A variable from its name and value with an equals sign between them. -/
def variableOf? (cs : List Char) : Option (String × String) :=
  match cs.dropWhile (· ≠ '=') with
  | _ :: value => some (String.ofList (cs.takeWhile (· ≠ '=')), String.ofList value)
  | [] => none

/-- The environment of the process. -/
def environment : IO Environment := do
  try
    let bytes ← IO.FS.readBinFile "/proc/self/environ"
    let text := (String.fromUTF8? bytes).getD ""
    return (piecesAt '\x00' text.toList).filterMap variableOf?
  catch _ => return []

/-- The inclusions for which this program makes room on its own stack. -/
def room : Nat := 1000

/-- The host that the machine is. Files are read with their tags in order. -/
def host : IO (Host Unit) := do
  let env ← environment
  return {
    now := ← currentTime
    environment := env
    configHome? := configHome? env
    list := fun _ _ => .error ⟨"Failed to list rest apis: no network"⟩
    sink := fun agent => .unreachable agent.address
    pauses := []
    room
    tagOrders := fun _ => .asListed }

/-! ## Files -/

/-- The path of a place. -/
def pathOf (place : Place) : String := "/" ++ String.intercalate "/" place

/-- What stands at a place of the machine. -/
def nodeAt (place : Place) : IO (Option Node) := do
  try
    let bytes ← IO.FS.readBinFile (pathOf place)
    return some (.file (String.fromUTF8? bytes))
  catch
    | .inappropriateType _ 21 _ => return some .directory
    | _ => return none

/-- Adds what the parts of a path lead to. A part that is missing may be left again. -/
def survey (fs : Files) (here : Place) : List String → IO Files
  | [] => return fs
  | part :: rest => do
    if staysHere part then survey fs here rest
    else if part = ".." then survey fs here.dropLast rest
    else
      match ← nodeAt (here ++ [part]) with
      | some n => survey (fs.put (here ++ [part]) n) (here ++ [part]) rest
      | none => survey fs (here ++ [part]) rest

/-- The paths that a command may look at. -/
def pathsOf (home? : Option String) (i : CommandLine.Invocation) : List String :=
  let config? := i.config? <|> home?.map (joinPath · "gateway-sync/config.toml")
  let other? :=
    match i.command with
    | .sync _ _ resources? => resources?
    | .validateConfig file? => file?
    | _ => none
  config?.toList ++ other?.toList

/-- The files of the machine that some paths lead to. -/
def filesAt (paths : List String) : IO Files := do
  let here := (pathParts (← IO.currentDir).toString).filter (!staysHere ·)
  let fs ← survey { here } [] here
  paths.foldlM (fun fs path => survey fs (fs.start path) (pathParts path)) fs

/-- Carries out what has changed, in the order in which it was put there. -/
def carryOut (before after : Files) : IO Unit := do
  for (place, n) in after.nodes.reverse do
    if before.lookup place ≠ some n then
      match n with
      | .directory => IO.FS.createDirAll (pathOf place)
      | .file text? => IO.FS.writeFile (pathOf place) (text?.getD "")

/-! ## What is said -/

/-- A line about an event. -/
def eventLine (logJson : Bool) (e : Event) : String :=
  if logJson then Json.compact e.encode
  else
    let fields := e.fields.map fun (k, v) => " " ++ k ++ "=" ++ Json.compact v
    e.level.name ++ " " ++ e.message ++ String.join fields

/-- Says one thing. -/
def sayNotice (verbose logJson : Bool) : Notice → IO Unit
  | .printed text => IO.print text
  | .told e => if e.isTold verbose then IO.println (eventLine logJson e) else pure ()

/-- Says everything. -/
def sayAll (verbose logJson : Bool) (ns : List Notice) : IO Unit := do
  ns.forM (sayNotice verbose logJson)
  (← IO.getStdout).flush

/-! ## Watching -/

/-- The signals of the machine that the program listens to. -/
def listened : List (Signal × Std.Async.Signal) :=
  [(.terminate, .sigterm), (.interrupt, .sigint), (.hangUp, .sighup), (.syncNow, .sigusr1)]

/-- What waits for the signals. -/
abbrev Waiters := List (Signal × Std.Async.Signal.Waiter)

/-- Waits for the end of a pause. -/
def waitFor (waiters : Waiters) (interval : Interval) : IO Pause := do
  let outcome : Std.Async.Async Pause := do
    let elapsed ← Std.Async.Selector.sleep (.ofNat interval.milliseconds)
    let signals := waiters.map fun (s, w) => Std.Async.Selectable.case w.selector fun _ => pure (Pause.cut s)
    Std.Async.Selectable.one (Std.Async.Selectable.case elapsed (fun _ => pure .elapsed) :: signals).toArray
  outcome.block

/-- Takes one turn after the other until a signal stops the program, or a cycle breaks off. -/
partial def watchOn (say : List Event → IO Unit) (s : Settings) (room : Nat) (sink : Sink Unit) (list : Nat → Listing)
    (interval : Interval) (waiters : Waiters) (n : Nat) : IO Completion := do
  let (_, ending?) ← s.turn say (waitFor waiters interval) room sink interval (list n) ()
  match ending? with
  | some ending => return ending
  | none => watchOn say s room sink list interval waiters (n + 1)

/-- Watches the provider. -/
def watch (h : Host Unit) (i : CommandLine.Invocation) (options : CommandLine.Options) (w : World Unit) :
    IO UInt32 := do
  let say := sayAll i.verbose i.logJson
  match StateT.run (ExceptT.run (Action.prepareWatch h i.config? options)) w with
  | (.error f, w) => do
    say (w.notices ++ [.told (.commandFailed f)])
    return 1
  | (.ok (c, interval), w) => do
    say w.notices
    let waiters ← listened.mapM fun (s, signal) => do return (s, ← Std.Async.Signal.Waiter.mk signal true)
    say [.told (.watchStarted interval)]
    let ending ←
      watchOn (fun es => say (es.map .told)) c.settings h.room (h.sink c.agent) (h.list c.region) interval waiters 0
    return ending.exitCode.toUInt32

/-- Runs the program with the words of its command line. -/
def runWith (words : List String) : IO UInt32 := do
  let h ← host
  match CommandLine.parse words with
  | .error stop => do
    match stop with
    | .fault f => IO.eprintln ("error: " ++ f.name)
    | _ => pure ()
    let e := runProgram h "gateway-sync" words { files := {}, catalog := () }
    sayAll false false e.world.notices
    return e.exitCode.toUInt32
  | .ok i => do
    let fs ← filesAt (pathsOf h.configHome? i)
    let w : World Unit := { files := fs, catalog := () }
    match i.command with
    | .run options => watch h i options w
    | _ => do
      let e := (Action.ofInvocation h i).finish w
      carryOut fs e.world.files
      sayAll i.verbose i.logJson e.world.notices
      return e.exitCode.toUInt32

end GatewayRegistrar.Program

def main (args : List String) : IO UInt32 := GatewayRegistrar.Program.runWith args
