import GatewayRegistrar.CommandLine.Reader

/-!
# Help

What is printed when help is asked for. The program itself has a longer form, with more about it and every switch on
lines of its own.
-/

namespace GatewayRegistrar.CommandLine

/-- What the program is for, at length. -/
def longAbout : String :=
  "gateway-sync periodically lists the REST APIs in an AWS region, selects them with tag filters, renders tag " ++
  "templates for each, and registers every selected API as an external service in the Consul catalog."

/-- What the help command does. -/
def helpAbout : String := "Print this message or the help of the given subcommand(s)"

/-- The name of the program in its usage: the last part of the path it was called by. -/
def programName (path : String) : String :=
  let parts := (path.splitOn "/").filter fun part => part ≠ "" ∧ part ≠ "."
  match parts.getLast? with
  | some part => if part = ".." then "gateway-sync" else part
  | none => "gateway-sync"

/-- Spaces behind a text, up to a width. -/
def padded (width : Nat) (s : String) : String := s ++ String.ofList (List.replicate (width - s.length) ' ')

/-- Two columns, the first as wide as its widest entry. -/
def columns (rows : List (String × String)) : List String :=
  let width := (rows.map (·.1.length)).foldl max 0
  rows.map fun (left, right) => "  " ++ padded width left ++ "  " ++ right

namespace Switch

/-- The names of a switch with what follows them. -/
def usage (s : Switch) : String :=
  let short :=
    match s.short? with
    | some c => String.ofList ['-', c, ',', ' ']
    | none => "    "
  let value := if s.placeholder.isEmpty then "" else " <" ++ s.placeholder ++ ">"
  short ++ "--" ++ String.ofList s.long ++ value

end Switch

/-- The switches of a level, with what they do. The program's own help says how to see its other form. -/
def switchRows (l : Level) (isLong : Bool) : List (String × String) :=
  l.switches.map fun s =>
    let hint :=
      if s.key = .help ∧ l = .program then
        if isLong then " (see a summary with '-h')" else " (see more with '--help')"
      else ""
    (s.usage, s.about ++ hint)

/-- The part that lists the switches. -/
def switchLines (l : Level) (isLong : Bool) : List String :=
  if isLong ∧ l = .program then
    ["Options:", String.intercalate "\n\n" ((switchRows l isLong).map fun (left, right) =>
      "  " ++ left ++ "\n          " ++ right)]
  else "Options:" :: columns (switchRows l isLong)

/-- The part that lists the levels below. -/
def commandLines (l : Level) : List String :=
  "Commands:" :: columns (l.below.map (fun (word, deeper) => (word, deeper.about)) ++ [("help", helpAbout)])

/-- The line that shows how a level is called. -/
def usageLine (program : String) (l : Level) : String :=
  let operand :=
    if l.isGroup then " <COMMAND>"
    else
      match l.operand? with
      | some s => " <" ++ s.placeholder ++ ">"
      | none => ""
  "Usage: " ++ String.intercalate " " (program :: l.words) ++ " [OPTIONS]" ++ operand

/-- The parts of the help of a level, each with its lines. -/
def levelParts (program : String) (l : Level) (isLong : Bool) : List (List String) :=
  [[if isLong ∧ l = .program then longAbout else l.about], [usageLine program l]]
    ++ (if l.isGroup then [commandLines l] else [])
    ++ (match l.operand? with
      | some s => ["Arguments:" :: columns [("<" ++ s.placeholder ++ ">", s.about)]]
      | none => [])
    ++ [switchLines l isLong]

/-- The parts of the help of a help command. -/
def helpParts (program : String) (l : Level) : List (List String) :=
  [[helpAbout], ["Usage: " ++ String.intercalate " " (program :: l.words) ++ " help [COMMAND]..."],
   "Arguments:" :: columns [("[COMMAND]...", "Print help for the subcommand(s)")]]

/-- The help on a topic. -/
def helpText (program : String) (topic : Topic) (isLong : Bool) : String :=
  let parts :=
    match topic with
    | .level l => levelParts program l isLong
    | .helpCommand l => helpParts program l
  String.intercalate "\n\n" (parts.map (String.intercalate "\n")) ++ "\n"

/-- The version of the program. -/
def versionText : String := "gateway-sync 0.1.0\n"

end GatewayRegistrar.CommandLine
