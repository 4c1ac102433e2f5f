import GatewayRegistrar.Cycle.Signal
import GatewayRegistrar.Log.Failure

/-!
# Events

What the registrar tells about its work while it does it. Each event has a level, a message, and fields of its own.
-/

namespace GatewayRegistrar

/-- How much an event matters. -/
inductive Level where
  | debug
  | info
  | warn
  | error
deriving DecidableEq, Repr

/-- The name of the level. -/
def Level.name : Level → String
  | debug => "DEBUG"
  | info => "INFO"
  | warn => "WARN"
  | error => "ERROR"

/-- An event. -/
inductive Event where
  | configMissing
  | overrideRejected (variableName : String) (fault : OverrideFault)
  | filterUseless (f : Finding)
  | providerClientMade (region : String)
  | watchStarted (pause : Interval)
  | resourceListed (i : Identity)
  | resourceSkipped (fault : IdentityFault)
  | filterIgnored (expression : String) (fault : FilterFault)
  | serviceExcluded (i : Identity)
  | servicesFiltered (candidates remaining : Nat)
  | templateSkipped (i : Identity) (index : Nat) (fault : TemplateFault)
  | registering (r : Registration)
  | registrationFailed (r : Registration) (fault : CatalogFault)
  | cycleComplete (report : Report)
  | cycleFailed (fault : ListingFault)
  | sleeping (pause : Interval)
  | signalReceived (s : Signal)
  | shutdownRequested (s : Signal)
  | syncRequested
  | dryRunComplete (report : Report)
  | commandFailed (f : Failure)
deriving Repr

namespace Event

/-- The level of an event. -/
def level : Event → Level
  | overrideRejected _ (.unknown _) | serviceExcluded _ | sleeping _ | signalReceived _ => .debug
  | configMissing | overrideRejected .. | filterUseless _ | resourceSkipped _ | filterIgnored .. | templateSkipped .. =>
    .warn
  | registrationFailed .. | cycleFailed _ | commandFailed _ => .error
  | _ => .info

/-- The message of an event. -/
def message : Event → String
  | configMissing => "Config file not found, using defaults. Run 'gateway-sync config init' to create one."
  | overrideRejected _ (.unknown path) => (OverrideFault.unknown path).message
  | overrideRejected name fault => "Failed to apply env override " ++ name ++ ": " ++ fault.message
  | filterUseless _ => "Filter will never match"
  | providerClientMade _ => "Creating api-gateway metadata client"
  | watchStarted _ => "Starting gateway watch"
  | resourceListed _ => "RestAPI"
  | resourceSkipped _ => "Skipping resource"
  | filterIgnored _ (.malformed _) => "Ignoring malformed filter"
  | filterIgnored _ (.pattern _) => "Invalid filter pattern"
  | serviceExcluded _ => "Excluded by filter"
  | servicesFiltered .. => "Filtered services"
  | templateSkipped .. => "Skipping tag template"
  | registering _ => "Registering service"
  | registrationFailed .. => "Failed to register"
  | cycleComplete _ => "Cycle complete"
  | cycleFailed _ => "Cycle failed"
  | sleeping _ => "Sleeping"
  | signalReceived _ => "Received signal"
  | shutdownRequested _ => "Shutdown signal received"
  | syncRequested => "Immediate sync requested"
  | dryRunComplete _ => "Dry run complete"
  | commandFailed _ => "Syncing gateways failed"

/-- Texts in quotes, in brackets. -/
def quotedList (ts : List String) : String := "[" ++ String.intercalate ", " (ts.map quotedForm) ++ "]"

/-- The fields of an event apart from its level and message. -/
def fields : Event → List (String × Value)
  | filterUseless f => [("path", .text f.path), ("error", .text f.message)]
  | providerClientMade region => [("region", .text region)]
  | watchStarted pause => [("interval_secs", .integer pause.seconds)]
  | resourceListed i =>
    [("service_id", .text i.id), ("service", .text i.canonicalName), ("stage_names", .text (quotedList i.stageNames))]
  | resourceSkipped fault => [("error", .text ("Invalid resource: " ++ fault.reason))]
  | filterIgnored expression fault => [("expression", .text expression), ("error", .text fault.message)]
  | serviceExcluded i => [("service", .text i.canonicalName)]
  | servicesFiltered candidates remaining =>
    [("candidates", .integer candidates), ("remaining", .integer remaining)]
  | templateSkipped i index fault =>
    [("service", .text i.canonicalName), ("template", .integer index), ("error", .text fault.message)]
  | registering r => [("service", .text r.serviceName), ("address", .text r.address)]
  | registrationFailed r fault => [("service", .text r.serviceName), ("error", .text fault.message)]
  | cycleComplete report =>
    [("discovered", .integer report.discovered), ("skipped", .integer report.skipped),
     ("eligible", .integer report.eligible), ("registered", .integer report.registered),
     ("failed", .integer report.failed)]
  | cycleFailed fault => [("error", .text fault.message)]
  | sleeping pause => [("time", .text pause.toText)]
  | signalReceived s => [("signal", .text s.request)]
  | shutdownRequested s => [("signal", .text s.name)]
  | dryRunComplete report => [("discovered", .integer report.discovered), ("eligible", .integer report.eligible)]
  | commandFailed f => [("error", .text f.message)]
  | configMissing | overrideRejected .. | syncRequested => []

/-- The event as a table. -/
def encode (e : Event) : Value :=
  .table (("level", .text e.level.name) :: ("message", .text e.message) :: e.fields)

/-- Whether the event is told: those of the lowest level only where `verbose` holds. -/
def isTold (verbose : Bool) (e : Event) : Bool := verbose || e.level != .debug

end Event

end GatewayRegistrar
