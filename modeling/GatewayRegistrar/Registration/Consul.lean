import GatewayRegistrar.Registration.Record

/-!
# Registering with Consul

The request that hands a registration to the catalog of a Consul agent.
-/

namespace GatewayRegistrar.Consul

/-- The text without the slashes at its end. -/
def withoutSlashes (s : String) : String := String.ofList (s.toList.reverse.dropWhile (· == '/')).reverse

/-- Where registrations go, given the address of the agent. -/
def registerUrl (address : String) : String := withoutSlashes address ++ "/v1/catalog/register"

/-- The check of a registration in the words of the catalog. -/
def checkBody (c : HealthCheck) : Value :=
  .table [("CheckID", .text c.id), ("Name", .text c.name), ("Node", .text c.node), ("Notes", .text c.notes),
    ("ServiceName", .text c.serviceName), ("Status", .text c.status.name)]

/-- The body of the request for a registration. -/
def registerBody (r : Registration) : Value :=
  .table [("Node", .text r.node), ("Address", .text r.address), ("NodeMeta", .ofTextTable r.nodeMetadata),
    ("Service", .table [("Service", .text r.serviceName), ("Tags", .ofTexts r.tags), ("Port", .integer r.port.toNat),
      ("Meta", .ofTextTable r.serviceMetadata)]),
    ("Checks", .list [checkBody r.healthCheck]), ("SkipNodeUpdate", .boolean r.skipNodeUpdate)]

end GatewayRegistrar.Consul
