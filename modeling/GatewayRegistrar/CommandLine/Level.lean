/-!
# The levels of the command line

A command line names a path through the levels, from the program to one of its commands. Each level has its switches,
the levels below it, and perhaps an operand.
-/

namespace GatewayRegistrar.CommandLine

/-- What a switch or an operand says. -/
inductive Key where
  | config
  | verbose
  | logJson
  | region
  | filter
  | exclude
  | tag
  | sleep
  | address
  | dryRun
  | resources
  | file
  | force
  | expression
  | help
  | version
deriving DecidableEq, Repr

/-- What follows a switch: nothing, a path, which is not empty, any text, or a number of 64 bits. -/
inductive Argument where
  | nothing
  | path
  | text
  | word
deriving DecidableEq, Repr

/-- A switch or an operand. -/
structure Switch where
  key : Key
  long : List Char
  short? : Option Char := none
  argument : Argument := .nothing
  isRepeatable : Bool := false
  placeholder : String := ""
  about : String
deriving DecidableEq, Repr

namespace Switch

def config : Switch where
  key := .config
  long := "config".toList
  short? := some 'c'
  argument := .path
  placeholder := "FILE"
  about := "Global config file path (defaults to ~/.config/gateway-sync/config.toml)"

def verbose : Switch where
  key := .verbose
  long := "verbose".toList
  short? := some 'v'
  about := "Enable verbose logging"

def logJson : Switch where
  key := .logJson
  long := "log-json".toList
  about := "Emit logs as JSON"

def region : Switch where
  key := .region
  long := "aws-region".toList
  argument := .text
  placeholder := "REGION"
  about := "The AWS region to search for API gateways"

def filter : Switch where
  key := .filter
  long := "filter".toList
  argument := .text
  isRepeatable := true
  placeholder := "EXPR"
  about := "Inclusion filter, Name=tag:<key>,Values=<regex> (repeatable, all must match)"

def exclude : Switch where
  key := .exclude
  long := "exclude".toList
  argument := .text
  isRepeatable := true
  placeholder := "EXPR"
  about := "Exclusion filter, same syntax (repeatable, any match excludes)"

def tag : Switch where
  key := .tag
  long := "tag".toList
  argument := .text
  isRepeatable := true
  placeholder := "TEMPLATE"
  about := "Tag template added to every registration (repeatable)"

def sleep : Switch where
  key := .sleep
  long := "sleep".toList
  argument := .word
  placeholder := "SECONDS"
  about := "Seconds to sleep between polls"

def address : Switch where
  key := .address
  long := "consul-address".toList
  argument := .text
  placeholder := "URL"
  about := "Consul HTTP address"

def dryRun : Switch where
  key := .dryRun
  long := "dry-run".toList
  about := "Print registrations as JSON instead of sending them to Consul"

def resources : Switch where
  key := .resources
  long := "resources".toList
  argument := .path
  placeholder := "FILE"
  about := "Read resources from a JSON file instead of listing them from AWS"

def file : Switch where
  key := .file
  long := "file".toList
  short? := some 'f'
  argument := .path
  placeholder := "FILE"
  about := "Path to config file (defaults to standard location)"

def force : Switch where
  key := .force
  long := "force".toList
  short? := some 'f'
  about := "Force overwrite existing config"

def help : Switch where
  key := .help
  long := "help".toList
  short? := some 'h'
  about := "Print help"

def version : Switch where
  key := .version
  long := "version".toList
  short? := some 'V'
  about := "Print version"

/-- The operand of the filter check. -/
def expression : Switch where
  key := .expression
  long := []
  argument := .text
  placeholder := "EXPRESSION"
  about := "Expression in the form Name=tag:<key>,Values=<regex>"

end Switch

/-- The levels. -/
inductive Level where
  | program
  | run
  | sync
  | filter
  | filterCheck
  | config
  | configShow
  | configValidate
  | configInit
deriving DecidableEq, Repr

namespace Level

/-- The switches of a level, in the order in which they are shown. -/
def switches : Level → List Switch
  | program => [.config, .verbose, .logJson, .help, .version]
  | run =>
    [.region, .config, .filter, .verbose, .exclude, .logJson, .tag, .sleep, .address, .help]
  | sync =>
    [.region, .config, .filter, .verbose, .exclude, .logJson, .tag, .sleep, .address, .dryRun, .resources, .help]
  | configValidate => [.config, .file, .verbose, .logJson, .help]
  | configInit => [.config, .force, .verbose, .logJson, .help]
  | filter | filterCheck | config | configShow => [.config, .verbose, .logJson, .help]

/-- The levels below a level, with the words that lead to them. -/
def below : Level → List (String × Level)
  | program => [("run", run), ("sync", sync), ("filter", filter), ("config", config)]
  | filter => [("check", filterCheck)]
  | config => [("show", configShow), ("validate", configValidate), ("init", configInit)]
  | _ => []

/-- The operand of a level. -/
def operand? : Level → Option Switch
  | filterCheck => some .expression
  | _ => none

/-- Whether a level is only a way to others. -/
def isGroup (l : Level) : Bool := !l.below.isEmpty

/-- What the command of a level does. -/
def about : Level → String
  | program => "Register AWS API Gateway REST APIs in the Consul catalog"
  | run => "Poll and register services until interrupted"
  | sync => "Run a single sync cycle"
  | filter => "Work with filter expressions"
  | filterCheck => "Parse a filter expression and show its key and pattern"
  | config => "Manage configuration"
  | configShow => "Show current configuration"
  | configValidate => "Validate configuration file"
  | configInit => "Initialize default configuration"

/-- The words that lead to a level. -/
def words : Level → List String
  | program => []
  | run => ["run"]
  | sync => ["sync"]
  | filter => ["filter"]
  | filterCheck => ["filter", "check"]
  | config => ["config"]
  | configShow => ["config", "show"]
  | configValidate => ["config", "validate"]
  | configInit => ["config", "init"]

/-- The level that a word leads to. -/
def next? (l : Level) (word : String) : Option Level := (l.below.find? (·.1 = word)).map (·.2)

/-- The switch with a long name. -/
def longSwitch? (l : Level) (name : List Char) : Option Switch := l.switches.find? (·.long = name)

/-- The switch with a short name. -/
def shortSwitch? (l : Level) (name : Char) : Option Switch := l.switches.find? (·.short? = some name)

end Level

end GatewayRegistrar.CommandLine
