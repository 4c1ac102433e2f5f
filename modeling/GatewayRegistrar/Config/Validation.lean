import GatewayRegistrar.Config.Environment
import GatewayRegistrar.Filter.Set

/-!
# Valid configurations

A configuration is valid when it violates none of five rules. All violations are named, in the order of the rules.
Filters that are of no use do not count: they are findings of their own, since such a filter admits no service.
-/

namespace GatewayRegistrar

/-- Something to say about an entry of the configuration. -/
structure Finding where
  path : String
  message : String
deriving DecidableEq, Repr

/-- A rule that a configuration violates. -/
inductive Violation where
  | schemaVersion (version : String)
  | emptyRegion
  | addressScheme (address : String)
  | interval (text : String)
  | zeroPort
deriving DecidableEq, Repr

namespace Violation

/-- The violation in words, with the entry that it concerns. -/
def finding : Violation → Finding
  | schemaVersion version => ⟨"_meta.schema_version", "Unsupported schema version: " ++ version⟩
  | emptyRegion => ⟨"aws.region", "Region cannot be empty"⟩
  | addressScheme address => ⟨"consul.address", "Address must be an http(s) URL, got '" ++ address ++ "'"⟩
  | interval text => ⟨"sync.interval", "Invalid duration format: " ++ text⟩
  | zeroPort => ⟨"registration.port", "Port must be greater than 0"⟩

end Violation

namespace Polling

/-- Whether time passes between two cycles. -/
def hasPause (p : Polling) : Bool := p.pause?.any (!·.isZero)

end Polling

namespace Config

/-- The violation, when the rule does not hold. -/
def check (holds : Bool) (v : Violation) : List Violation := if holds then [] else [v]

/-- The violated rules, in order. -/
def violations (c : Config) : List Violation :=
  check (c.metadata.schemaVersion == GatewayRegistrar.schemaVersion) (.schemaVersion c.metadata.schemaVersion)
    ++ check (!(trimmed c.region).isEmpty) .emptyRegion
    ++ check (hasScheme c.agent.address) (.addressScheme c.agent.address)
    ++ check c.polling.hasPause (.interval c.polling.interval)
    ++ check (c.policy.port != 0) .zeroPort

/-- Whether no rule is violated. -/
def isValid (c : Config) : Bool := c.violations.isEmpty

/-- The filter expressions, each with the entry that holds it: inclusions before exclusions. -/
def filterExpressions (c : Config) : List (String × String) :=
  c.polling.filters.map (("sync.filters", ·)) ++ c.polling.exclusions.map (("sync.exclusions", ·))

/-- The filters that are of no use, with the reason. -/
def uselessFilters (c : Config) : List Finding :=
  c.filterExpressions.filterMap fun (path, expression) =>
    match CompiledFilter.ofText? expression with
    | .ok _ => none
    | .error fault => some ⟨path, fault.message⟩

end Config

end GatewayRegistrar
