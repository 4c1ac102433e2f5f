import GatewayRegistrar.Registration.Consul

/-!
# Listings, sinks and reports

A cycle takes its resources from a listing and offers registrations to a sink. Either may fail, a listing as a whole and
a sink for each registration; what came of it is counted in a report.
-/

namespace GatewayRegistrar

/-- Why the resources could not be listed. -/
structure ListingFault where
  reason : String
deriving DecidableEq, Repr

/-- The fault in words. -/
def ListingFault.message (f : ListingFault) : String := "Discovery error: " ++ f.reason

/-- What the provider lists, or why it lists nothing. -/
abbrev Listing := Except ListingFault (List Resource)

/-- Why the catalog does not take a registration. -/
inductive CatalogFault where
  | refused (reason : String)
  | unreachable (url : String)
deriving DecidableEq, Repr

/-- The fault in words. -/
def CatalogFault.message : CatalogFault → String
  | refused reason => "Catalog error: " ++ reason
  | unreachable url => "HTTP error: error sending request for url (" ++ url ++ ")"

/-- A catalog with a state: what becomes of it when a registration is offered, and the fault when the registration is
not taken. -/
abbrev Sink (σ : Type) := σ → Registration → σ × Option CatalogFault

/-- A catalog that cannot be reached at its address. -/
def Sink.unreachable (address : String) : Sink Unit := fun _ _ => ((), some (.unreachable (Consul.registerUrl address)))

/-- What a cycle has done. -/
structure Report where
  discovered : Nat := 0
  skipped : Nat := 0
  eligible : Nat := 0
  registered : Nat := 0
  failed : Nat := 0
deriving DecidableEq, Repr

end GatewayRegistrar
