import GatewayRegistrar.Config.Document
import GatewayRegistrar.Cycle.Report

/-!
# Failures

Why a command ends without having done its work.
-/

namespace GatewayRegistrar

/-- Why the file system does not do what it is asked for. -/
inductive FileFault where
  | notFound
  | notDirectory
  | isDirectory
  | alreadyExists
  | nameTooLong
  | notText
deriving DecidableEq, Repr

/-- The fault in words. -/
def FileFault.message : FileFault → String
  | notFound => "No such file or directory (os error 2)"
  | notDirectory => "Not a directory (os error 20)"
  | isDirectory => "Is a directory (os error 21)"
  | alreadyExists => "File exists (os error 17)"
  | nameTooLong => "File name too long (os error 36)"
  | notText => "stream did not contain valid UTF-8"

/-- What is done to a file. -/
inductive FileAction where
  | readConfig
  | writeConfig
  | makeConfigDirectory
  | readResources
deriving DecidableEq, Repr

/-- The action in words. -/
def FileAction.describe : FileAction → String
  | readConfig => "read config file"
  | writeConfig => "write config file"
  | makeConfigDirectory => "create config directory"
  | readResources => "read resources file"

/-- Why a command fails. -/
inductive Failure where
  | noConfigHome
  | configNotFound (path : String)
  | file (action : FileAction) (path : String) (fault : FileFault)
  | load (fault : LoadFault)
  | resources (path : String) (fault? : Option DecodeFault)
  | filter (fault : FilterFault)
  | listing (fault : ListingFault)
  | interval (text : String)
deriving Repr

/-- The findings as a list. -/
def findingsText (fs : List Finding) : String :=
  let shown := fs.map fun f =>
    "ValidationError \x7b path: " ++ quotedForm f.path ++ ", message: " ++ quotedForm f.message ++ " \x7d"
  "[" ++ String.intercalate ", " shown ++ "]"

/-- The failure in words. -/
def Failure.message : Failure → String
  | noConfigHome => "Configuration error: Cannot determine config directory"
  | configNotFound path => "Configuration file not found: " ++ path
  | file action path fault =>
    "IO error: Failed to " ++ action.describe ++ ": " ++ quotedPath path ++ ": " ++ fault.message
  | load (.document fault) => "TOML error: " ++ fault.detail?.getD "TOML parse error"
  | load (.invalid violations) => "Configuration validation failed: " ++ findingsText (violations.map (·.finding))
  | resources path fault? =>
    "JSON error: Failed to parse resources file: " ++ quotedPath path ++ ": "
      ++ (fault?.map (·.message Binary64.compactText)).getD "malformed text"
  | filter fault => fault.message
  | listing fault => fault.message
  | interval text => "Configuration error: Invalid interval: " ++ text

end GatewayRegistrar
