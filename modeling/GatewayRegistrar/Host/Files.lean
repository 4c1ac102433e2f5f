import GatewayRegistrar.Log.Failure

/-!
# Files

The part of a file system that a command can see: what stands at each place. A path is followed part by part, and every
part but the last has to be a directory. Writing changes one place only.
-/

namespace GatewayRegistrar

/-- A place in the file system: the names that lead to it from the root. -/
abbrev Place := List String

/-- What stands at a place. The bytes of a file may be no text. -/
inductive Node where
  | file (text? : Option String)
  | directory
deriving DecidableEq, Repr

/-- Files and directories, and the place where paths without a slash in front begin. -/
structure Files where
  nodes : List (Place × Node) := []
  here : Place := []
deriving DecidableEq, Repr

/-- The parts of a path, between slashes. -/
def pathParts (path : String) : List String := (piecesAt '/' path.toList).map String.ofList

/-- Whether a part of a path leads nowhere else. -/
def staysHere (part : String) : Bool := part == "" || part == "."

/-- Whether a path begins at the root. -/
def isAbsolute (path : String) : Bool := startsWith ['/'] path.toList

/-- The path that leads on from a directory. -/
def joinPath (directory path : String) : String :=
  if isAbsolute path || directory.isEmpty then path
  else if startsWith ['/'] directory.toList.reverse then directory ++ path
  else directory ++ "/" ++ path

/-- Whether a name is longer than names of files may be. -/
def isTooLong (name : String) : Bool := 255 < name.utf8ByteSize

namespace Files

/-- What stands at a place. The root is a directory. -/
def lookup (fs : Files) (place : Place) : Option Node :=
  if place = [] then some .directory else (fs.nodes.find? (·.1 = place)).map (·.2)

/-- Puts something at a place. -/
def put (fs : Files) (place : Place) (n : Node) : Files :=
  { fs with nodes := (place, n) :: fs.nodes.filter (·.1 ≠ place) }

/-- The place where a path begins. -/
def start (fs : Files) (path : String) : Place := if isAbsolute path then [] else fs.here

/-- Follows the parts of a path from a place. -/
def follow (fs : Files) : Place → List String → Except FileFault Place
  | here, [] => .ok here
  | here, part :: rest =>
    match fs.lookup here with
    | none => .error .notFound
    | some (.file _) => .error .notDirectory
    | some .directory =>
      if staysHere part then follow fs here rest
      else if part = ".." then follow fs here.dropLast rest
      else if (fs.lookup (here ++ [part])).isSome then follow fs (here ++ [part]) rest
      else .error (if isTooLong part then .nameTooLong else .notFound)

/-- Whether a path leads anywhere. -/
def has (fs : Files) (path : String) : Bool := (fs.follow (fs.start path) (pathParts path)).isOk

/-- The text of a file. -/
def readText (fs : Files) (path : String) : Except FileFault String := do
  let place ← fs.follow (fs.start path) (pathParts path)
  match fs.lookup place with
  | none => .error .notFound
  | some .directory => .error .isDirectory
  | some (.file none) => .error .notText
  | some (.file (some text)) => .ok text

/-- The place of the file that a path leads to, which need not be there yet. A path with a slash at its end stands for a
directory. -/
def target (fs : Files) (path : String) : Except FileFault Place := do
  let parts := pathParts path
  let named := (parts.reverse.dropWhile (· = "")).reverse
  let here ← fs.follow (fs.start path) named.dropLast
  match fs.lookup here with
  | none => .error .notFound
  | some (.file _) => .error .notDirectory
  | some .directory =>
    let name := named.getLast?.getD ""
    if staysHere name ∨ name = ".." ∨ named ≠ parts then .error .isDirectory
    else if fs.lookup (here ++ [name]) = some .directory then .error .isDirectory
    else if isTooLong name then .error .nameTooLong
    else .ok (here ++ [name])

/-- Writes a text into the file that a path leads to. -/
def writeText (fs : Files) (path text : String) : Except FileFault Files := do
  return fs.put (← fs.target path) (.file (some text))

/-- Makes the directories on a way that are not there yet. Those that were made before a fault stay; `made` says whether
there are any, because a file on the way is told apart from a file at its end only as long as there are none. -/
def makeWay (fs : Files) (made : Bool) : Place → List String → Files × Option FileFault
  | _, [] => (fs, none)
  | here, part :: rest =>
    if staysHere part then makeWay fs made here rest
    else if part = ".." then makeWay fs made here.dropLast rest
    else
      match fs.lookup (here ++ [part]) with
      | none =>
        if isTooLong part then (fs, some .nameTooLong)
        else makeWay (fs.put (here ++ [part]) .directory) true (here ++ [part]) rest
      | some .directory => makeWay fs made (here ++ [part]) rest
      | some (.file _) => (fs, some (if made || rest.all staysHere then .alreadyExists else .notDirectory))

/-- Makes a directory with all directories that lead to it. -/
def makeDirectories (fs : Files) (path : String) : Files × Option FileFault :=
  fs.makeWay false (fs.start path) (pathParts path)

end Files

/-- A path, read backwards, without the slashes and single dots at its end. -/
def dropBlankParts : List Char → List Char
  | '/' :: rest => dropBlankParts rest
  | '.' :: '/' :: rest => dropBlankParts rest
  | cs => cs

/-- The path of the directory that a path lies in; none for the root. -/
def parentPath? (path : String) : Option String :=
  match dropBlankParts path.toList.reverse with
  | [] => none
  | cs =>
    let above := cs.dropWhile (· ≠ '/')
    let parent := dropBlankParts above
    some (if parent.isEmpty ∧ !above.isEmpty then "/" else String.ofList parent.reverse)

end GatewayRegistrar
