import GatewayRegistrar.Cycle.Watch
import GatewayRegistrar.Host.Files

/-!
# Hosts

A command runs on a host, which gives it the time, the environment, the provider, the catalog, the ends of its pauses,
room for the inclusions in templates, and the orders in which it goes through tags. What it changes is the world: files,
the state of the catalog, and what it tells and prints.
-/

namespace GatewayRegistrar

/-- The directory of configurations: that of the variable for it if it begins at the root, or else one in the home
directory. -/
def configHome? (env : Environment) : Option String :=
  match (entryOf? "XDG_CONFIG_HOME" env).filter isAbsolute with
  | some home => some home
  | none => ((entryOf? "HOME" env).filter (!·.isEmpty)).map (joinPath · ".config")

/-- What a command gets from outside. The catalog has a state of any type, and each resource of a file an order of its
own for its tags. -/
structure Host (σ : Type) where
  now : String
  environment : Environment
  configHome? : Option String
  list : String → Nat → Listing
  sink : CatalogAgent → Sink σ
  pauses : List Pause
  room : Nat
  tagOrders : Nat → TagOrder

/-- What a command says: a text that it prints, or an event. -/
inductive Notice where
  | printed (text : String)
  | told (e : Event)
deriving Repr

/-- What a command can change. -/
structure World (σ : Type) where
  files : Files
  catalog : σ
  notices : List Notice := []

/-- A part of a command. What it has said and changed stays when it fails. -/
abbrev Action (σ α : Type) := ExceptT Failure (StateM (World σ)) α

namespace Action

variable {σ : Type}

/-- Tells events. -/
def tell (es : List Event) : Action σ Unit :=
  modify fun w => { w with notices := w.notices ++ es.map .told }

/-- Prints a line. -/
def printLine (s : String) : Action σ Unit :=
  modify fun w => { w with notices := w.notices ++ [.printed (s ++ "\n")] }

/-- Goes on with a result, or fails with the fault in it. -/
def orFail {ε α : Type} (failure : ε → Failure) : Except ε α → Action σ α
  | .ok a => pure a
  | .error e => throw (failure e)

/-- Whether a path leads anywhere. -/
def fileExists (path : String) : Action σ Bool := do return (← get).files.has path

/-- Reads a file. -/
def readFile (action : FileAction) (path : String) : Action σ String := do
  orFail (.file action path) ((← get).files.readText path)

/-- Changes the files. -/
def changeFiles (action : FileAction) (path : String) (change : Files → Except FileFault Files) : Action σ Unit := do
  let fs ← orFail (.file action path) (change (← get).files)
  modify fun w => { w with files := fs }

/-- Makes a directory with all directories that lead to it. Those that were made before a fault stay. -/
def makeDirectories (action : FileAction) (path : String) : Action σ Unit := do
  let (fs, fault?) := (← get).files.makeDirectories path
  modify fun w => { w with files := fs }
  match fault? with
  | some fault => throw (.file action path fault)
  | none => pure ()

end Action

namespace World

variable {σ : Type}

/-- Everything that was printed. -/
def output (w : World σ) : String :=
  String.join (w.notices.filterMap fun
    | .printed text => some text
    | .told _ => none)

/-- Everything that was told. -/
def events (w : World σ) : List Event :=
  w.notices.filterMap fun
    | .told e => some e
    | .printed _ => none

end World

end GatewayRegistrar
