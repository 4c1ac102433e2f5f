import GatewayRegistrar.Service.Resource
import GatewayRegistrar.Text.Cut
import GatewayRegistrar.Text.Sanitized

/-!
# Identities

An identity is what a resource has to have before it can be registered: an identifier, a name, a region, and a name in
the catalog that is not empty.
-/

namespace GatewayRegistrar

/-- The tag that gives the catalog name outright. -/
def serviceTag : String := "service"

/-- The tag that gives the deployment stage. -/
def stageTag : String := "STAGE"

/-- A gateway with everything that a registration needs. All its tags have values. -/
structure Identity where
  id : String
  rawName : String
  region : String
  tags : List (String × String)
  stageNames : List String
deriving DecidableEq, Repr

/-- Why a resource has no identity. -/
inductive IdentityFault where
  | noRegion
  | noId
  | noName (id : String)
  | emptyCatalogName (id : String)
deriving DecidableEq, Repr

/-- What is wrong with the resource, in words. -/
def IdentityFault.reason : IdentityFault → String
  | noRegion => "region is required"
  | noId => "resource id is required"
  | noName id => "resource " ++ id ++ " has no name"
  | emptyCatalogName id => "resource " ++ id ++ " has an empty service name"

namespace Identity

/-- The name without `stage-` before it and without `-stage` behind the rest. Each is dropped once at most. -/
def withoutStage (stage name : List Char) : List Char :=
  let name := (dropStart? (stage ++ ['-']) name).getD name
  (dropEnding? ('-' :: stage) name).getD name

/-- The name of both the node and the service in the catalog: the value of the service tag, or else the raw name
without its stage. -/
def canonicalName (i : Identity) : String :=
  match entryOf? serviceTag i.tags with
  | some name => name
  | none =>
    match entryOf? stageTag i.tags with
    | some stage => String.ofList (withoutStage stage.toList i.rawName.toList)
    | none => i.rawName

/-- The deployment stage; empty when no tag gives it. -/
def stage (i : Identity) : String := (entryOf? stageTag i.tags).getD ""

/-- The host name that the gateway answers on. -/
def address (i : Identity) : String := i.id ++ ".execute-api." ++ i.region ++ ".amazonaws.com"

/-- The URL of the gateway. -/
def url (i : Identity) : String := "https://" ++ i.address

/-- The tags with keys and values sanitized. Of two keys that become one, the later tag counts. -/
def sanitizedTags (i : Identity) : List (String × String) :=
  sortEntries (i.tags.map fun (k, v) => (sanitize k, sanitize v))

/-- The identity of a resource in a region. Tags without a value are left out. -/
def ofResource (r : Resource) (region : String) : Except IdentityFault Identity := do
  if region.isEmpty then throw .noRegion
  let some id := r.id?.filter (!·.isEmpty) | throw .noId
  let some rawName := r.name?.filter (!·.isEmpty) | throw (.noName id)
  let identity : Identity :=
    { id, rawName, region
      tags := r.tags.filterMap fun (k, v) => v.map fun v => (k, v)
      stageNames := r.stageNames }
  if identity.canonicalName.isEmpty then throw (.emptyCatalogName id)
  return identity

end Identity

end GatewayRegistrar
