import GatewayRegistrar.Proofs.Cycle.Fate
import GatewayRegistrar.Proofs.Service.Identity

/-!
# What each setting is for

A region that is not empty decides nothing but the region of the identities (`ofResource_inRegion`), and of an identity
nothing but the address tells its region. So two settings with the same filters and exclusions register the same
resources, and each field of a registration goes by settings of its own (`Settings.Corresponds`): the address by the
region, the tags by templates and tag mode, port and metadata by the policy, and the others by none. Filters and
exclusions in turn decide which services are kept, and nothing about their registrations.
-/

namespace GatewayRegistrar

/-! ## Other regions -/

namespace Identity

variable (region : String) (i : Identity)

end Identity

variable {region : String} {i : Identity}

namespace Settings

variable {s t : Settings} {room : Nat}

/-! ## Two settings -/

section SameSelection

variable (hs : s.region.isEmpty = false) (ht : t.region.isEmpty = false) (hfilters : s.filters = t.filters)
  (hexclusions : s.exclusions = t.exclusions)
include hs ht hfilters hexclusions

end SameSelection

end Settings

end GatewayRegistrar
