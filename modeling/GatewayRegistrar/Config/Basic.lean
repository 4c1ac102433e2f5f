import GatewayRegistrar.Config.Interval
import GatewayRegistrar.Registration.Record
import GatewayRegistrar.Template.Basic

/-!
# Configuration

What the registrar is told: where to list gateways, where to register them, how often, which of them, and with which
tags. In a document each part is a table of its own. `Config.decode` reads such a table and `Config.encode` writes it;
settings that may be left out mean their defaults.
-/

namespace GatewayRegistrar

/-- What a configuration says about itself. -/
structure Metadata where
  schemaVersion : String
  createdAt : String
  lastModified : String
deriving DecidableEq, Repr

/-- The agent whose catalog takes the registrations. -/
structure CatalogAgent where
  address : String
  datacenter? : Option String := none
deriving DecidableEq, Repr

/-- How often the gateways are listed, which are selected, and the templates of their tags. -/
structure Polling where
  interval : String
  filters : List String := []
  exclusions : List String := []
  tags : List String := []
  compactTags : Bool := true
deriving DecidableEq, Repr

/-- A configuration. -/
structure Config where
  metadata : Metadata
  region : String
  agent : CatalogAgent
  polling : Polling
  policy : Policy
deriving DecidableEq, Repr

/-- The version of the configuration schema. -/
def schemaVersion : String := "1.0.0"

namespace Polling

/-- The pause between two cycles, when it can be read. -/
def pause? (p : Polling) : Option Interval := Interval.ofText? p.interval

/-- How tags are collected. -/
def tagMode (p : Polling) : TagMode := if p.compactTags then .compact else .strict

end Polling

namespace Config

/-- The configuration where none is given, made at the time `now`. -/
def standard (now : String) : Config where
  metadata := ⟨schemaVersion, now, now⟩
  region := "us-west-2"
  agent := { address := "http://127.0.0.1:8500" }
  polling := { interval := "90s" }
  policy := .standard

/-! ## Reading -/

/-- Lists of texts. -/
def texts : Decoder (List String) := .listOf .text

/-- Decodes what a configuration says about itself. A time that is not given is `now`. -/
def decodeMetadata (now : String) : Decoder Metadata := fun v => do
  let entries ← recordEntries "MetaConfig" 1 false
    [("schema_version", Decoder.text.check), ("created_at", Decoder.text.check),
     ("last_modified", Decoder.text.check)] v
  return {
    schemaVersion := ← requiredField "schema_version" .text entries
    createdAt := ← optionalField "created_at" .text now entries
    lastModified := ← optionalField "last_modified" .text now entries }

/-- Decodes the region. -/
def decodeRegion : Decoder String := fun v => do
  let entries ← recordEntries "AwsConfig" 1 false [("region", Decoder.text.check)] v
  requiredField "region" .text entries

/-- Decodes the agent. -/
def decodeAgent : Decoder CatalogAgent := fun v => do
  let entries ← recordEntries "ConsulConfig" 1 false
    [("address", Decoder.text.check), ("datacenter", Decoder.optionalText.check)] v
  return {
    address := ← requiredField "address" .text entries
    datacenter? := ← optionalField "datacenter" .optionalText none entries }

/-- Decodes the polling. -/
def decodePolling : Decoder Polling := fun v => do
  let entries ← recordEntries "SyncConfig" 1 false
    [("interval", Decoder.text.check), ("filters", texts.check), ("exclusions", texts.check), ("tags", texts.check),
     ("compact_tags", Decoder.boolean.check)] v
  return {
    interval := ← requiredField "interval" .text entries
    filters := ← optionalField "filters" texts [] entries
    exclusions := ← optionalField "exclusions" texts [] entries
    tags := ← optionalField "tags" texts [] entries
    compactTags := ← optionalField "compact_tags" .boolean true entries }

/-- Decodes the policy, of which only the port has to be given. -/
def decodePolicy : Decoder Policy := fun v => do
  let entries ← recordEntries "RegistrationConfig" 1 false
    [("port", Decoder.port.check), ("node_meta", Policy.textMap.check), ("service_meta", Policy.textMap.check)] v
  return {
    port := ← requiredField "port" .port entries
    nodeMeta := ← optionalField "node_meta" Policy.textMap Policy.defaultNodeMeta entries
    serviceMeta := ← optionalField "service_meta" Policy.textMap [] entries }

/-- The tables of a configuration. -/
def sections (now : String) : FieldChecks :=
  [("_meta", (decodeMetadata now).check), ("aws", decodeRegion.check), ("consul", decodeAgent.check),
   ("sync", decodePolling.check), ("registration", decodePolicy.check)]

/-- Decodes a configuration. -/
def decode (now : String) : Decoder Config := fun v => do
  let entries ← recordEntries "Config" 4 false (sections now) v
  return {
    metadata := ← requiredField "_meta" (decodeMetadata now) entries
    region := ← requiredField "aws" decodeRegion entries
    agent := ← requiredField "consul" decodeAgent entries
    polling := ← requiredField "sync" decodePolling entries
    policy := ← optionalField "registration" decodePolicy .standard entries }

/-! ## Writing -/

/-- The datacenter, where there is one. -/
def datacenterEntry : Option String → List (String × Value)
  | some name => [("datacenter", .text name)]
  | none => []

/-- The configuration as a table. -/
def encode (c : Config) : Value :=
  .table [
    ("_meta", .table [("schema_version", .text c.metadata.schemaVersion), ("created_at", .text c.metadata.createdAt),
      ("last_modified", .text c.metadata.lastModified)]),
    ("aws", .table [("region", .text c.region)]),
    ("consul", .table (("address", .text c.agent.address) :: datacenterEntry c.agent.datacenter?)),
    ("sync", .table [("interval", .text c.polling.interval), ("filters", .ofTexts c.polling.filters),
      ("exclusions", .ofTexts c.polling.exclusions), ("tags", .ofTexts c.polling.tags),
      ("compact_tags", .boolean c.polling.compactTags)]),
    ("registration", .table [("port", .integer c.policy.port.toNat), ("node_meta", .ofTextTable c.policy.nodeMeta),
      ("service_meta", .ofTextTable c.policy.serviceMeta)])]

end Config

end GatewayRegistrar
