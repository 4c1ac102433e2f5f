import GatewayRegistrar.Service.Identity

/-!
# Registrations

A service is registered as a node of its own with one service of the same name on it. Nobody probes such a node, so the
registration carries one check, which states that the service passes.
-/

namespace GatewayRegistrar

/-- The name under which registrations are made. -/
def registrarName : String := "consul-api-gateway-sync"

/-- What all registrations have in common. Both maps are in normal form. -/
structure Policy where
  port : UInt16
  nodeMeta : List (String × String)
  serviceMeta : List (String × String)
deriving DecidableEq, Repr

namespace Policy

/-- The metadata that mark a node as external and probed elsewhere. -/
def defaultNodeMeta : List (String × String) :=
  [("external-node", "true"), ("external-probe", "true"), ("registered-by", registrarName)]

/-- The policy where none is given. -/
def standard : Policy := { port := 443, nodeMeta := defaultNodeMeta, serviceMeta := [] }

/-- Text maps. -/
def textMap : Decoder (List (String × String)) := .mapOf .text

/-- The fields of a policy. -/
def fields : FieldChecks :=
  [("port", Decoder.port.check), ("node_meta", textMap.check), ("service_meta", textMap.check)]

/-- Decodes a policy with all its fields. -/
def decode : Decoder Policy := fun v => do
  let entries ← recordEntries "RegistrationPolicy" 3 true fields v
  return {
    port := ← requiredField "port" .port entries
    nodeMeta := ← requiredField "node_meta" textMap entries
    serviceMeta := ← requiredField "service_meta" textMap entries }

end Policy

/-- The state that a check reports. -/
inductive HealthStatus where
  | passing
deriving DecidableEq, Repr

namespace HealthStatus

/-- The name of the state. -/
def name : HealthStatus → String
  | passing => "passing"

/-- Decodes a state: its name, or a table with its name as the only key and nothing behind it. -/
def decode : Decoder HealthStatus
  | .text s => if s = passing.name then .ok passing else .error (.unknownVariant s passing.name)
  | .table [(key, v)] =>
    if key ≠ passing.name then .error (.unknownVariant key passing.name)
    else
      match v with
      | .null => .ok passing
      | v => .error (.wrongType v .unit)
  | .table _ => .error .notOneKey
  | v => .error (.wrongType v .textOrMap)

end HealthStatus

/-- The check of a registration. -/
structure HealthCheck where
  id : String
  name : String
  node : String
  serviceName : String
  notes : String
  status : HealthStatus
deriving DecidableEq, Repr

namespace HealthCheck

/-- The fields of a check. -/
def fields : FieldChecks :=
  [("id", Decoder.text.check), ("name", Decoder.text.check), ("node", Decoder.text.check),
   ("service_name", Decoder.text.check), ("notes", Decoder.text.check), ("status", HealthStatus.decode.check)]

/-- Decodes a check with all its fields. -/
def decode : Decoder HealthCheck := fun v => do
  let entries ← recordEntries "HealthCheck" 6 true fields v
  return {
    id := ← requiredField "id" .text entries
    name := ← requiredField "name" .text entries
    node := ← requiredField "node" .text entries
    serviceName := ← requiredField "service_name" .text entries
    notes := ← requiredField "notes" .text entries
    status := ← requiredField "status" HealthStatus.decode entries }

/-- The check as a table. -/
def encode (c : HealthCheck) : Value :=
  .table [("id", .text c.id), ("name", .text c.name), ("node", .text c.node), ("service_name", .text c.serviceName),
    ("notes", .text c.notes), ("status", .text c.status.name)]

end HealthCheck

/-- What is handed to the catalog for one service. Both maps are in normal form. -/
structure Registration where
  node : String
  nodeMetadata : List (String × String)
  address : String
  serviceName : String
  port : UInt16
  tags : List String
  serviceMetadata : List (String × String)
  healthCheck : HealthCheck
  skipNodeUpdate : Bool
deriving DecidableEq, Repr

namespace Registration

/-- The entry of the service metadata that names the provider. The metadata of the policy count more, those of the
service less. -/
def providerEntry : String × String := ("external-source", "aws")

/-- The registration of a service with the given tags. -/
def compose (i : Identity) (tags : List String) (policy : Policy) : Registration :=
  let name := i.canonicalName
  { node := name
    nodeMetadata := policy.nodeMeta
    address := i.address
    serviceName := name
    port := policy.port
    tags
    serviceMetadata := sortEntries (i.sanitizedTags ++ providerEntry :: policy.serviceMeta)
    healthCheck :=
      { id := "service:" ++ name
        name
        node := name
        serviceName := name
        notes := "created by " ++ registrarName
        status := .passing }
    skipNodeUpdate := true }

/-- The fields of a registration. -/
def fields : FieldChecks :=
  [("node", Decoder.text.check), ("node_metadata", Policy.textMap.check), ("address", Decoder.text.check),
   ("service_name", Decoder.text.check), ("port", Decoder.port.check), ("tags", (Decoder.listOf .text).check),
   ("service_metadata", Policy.textMap.check), ("health_check", HealthCheck.decode.check),
   ("skip_node_update", Decoder.boolean.check)]

/-- Decodes a registration with all its fields. -/
def decode : Decoder Registration := fun v => do
  let entries ← recordEntries "RegistrationRecord" 9 true fields v
  return {
    node := ← requiredField "node" .text entries
    nodeMetadata := ← requiredField "node_metadata" Policy.textMap entries
    address := ← requiredField "address" .text entries
    serviceName := ← requiredField "service_name" .text entries
    port := ← requiredField "port" .port entries
    tags := ← requiredField "tags" (.listOf .text) entries
    serviceMetadata := ← requiredField "service_metadata" Policy.textMap entries
    healthCheck := ← requiredField "health_check" HealthCheck.decode entries
    skipNodeUpdate := ← requiredField "skip_node_update" .boolean entries }

/-- The registration as a table. -/
def encode (r : Registration) : Value :=
  .table [("node", .text r.node), ("node_metadata", .ofTextTable r.nodeMetadata), ("address", .text r.address),
    ("service_name", .text r.serviceName), ("port", .integer r.port.toNat), ("tags", .ofTexts r.tags),
    ("service_metadata", .ofTextTable r.serviceMetadata), ("health_check", r.healthCheck.encode),
    ("skip_node_update", .boolean r.skipNodeUpdate)]

end Registration

end GatewayRegistrar
