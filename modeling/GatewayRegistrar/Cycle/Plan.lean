import GatewayRegistrar.Log.Event

/-!
# Plans

A plan is what a cycle would register: of the listed resources those with an identity, of these the selected ones, and
for each of them one registration with its tags. Nothing about one resource matters for another, save that there is no
plan at all where the tags of one of them have no result.
-/

namespace GatewayRegistrar

/-- What a cycle goes by. -/
structure Settings where
  region : String
  filters : List String
  exclusions : List String
  templates : List String
  tagMode : TagMode
  policy : Policy
deriving DecidableEq, Repr

/-- The settings of a configuration. -/
def Config.settings (c : Config) : Settings where
  region := c.region
  filters := c.polling.filters
  exclusions := c.polling.exclusions
  templates := c.polling.tags
  tagMode := c.polling.tagMode
  policy := c.policy

/-- The registrations of a cycle, and its report before any of them is offered. -/
structure Plan where
  registrations : List Registration
  report : Report
deriving DecidableEq, Repr

/-- A template that is filled in for a service, with its place among the templates. -/
structure Filling where
  service : Identity
  index : Nat
  template : String
deriving DecidableEq, Repr

namespace Filling

/-- Whether the template has a result, be it a fault. -/
def hasResult (room : Nat) (f : Filling) : Bool := (renderTemplate room f.template f.service).isSome

/-- What is told about a template with a fault. -/
def event? (room : Nat) (f : Filling) : Option Event :=
  match renderTemplate room f.template f.service with
  | some (.error fault) => some (.templateSkipped f.service f.index fault)
  | _ => none

end Filling

namespace Settings

/-- The identity of each resource, or why it has none. -/
def identities (s : Settings) (resources : List Resource) : List (Except IdentityFault Identity) :=
  resources.map (Identity.ofResource · s.region)

/-- The resources that have an identity. -/
def services (s : Settings) (resources : List Resource) : List Identity :=
  (s.identities resources).filterMap (·.toOption)

/-- The services that the filters select. -/
def eligible (s : Settings) (resources : List Resource) : List Identity :=
  selectServices (s.services resources) s.filters s.exclusions

/-- The registration of a service, if its tags have a result. -/
def registrationFor? (s : Settings) (room : Nat) (i : Identity) : Option Registration :=
  (s.tagMode.render room s.templates i).map (.compose i · s.policy)

/-- The report of a plan. -/
def planReport (s : Settings) (resources : List Resource) : Report where
  discovered := resources.length
  skipped := (s.identities resources).countP (!·.isOk)
  eligible := (s.eligible resources).length

/-- The plan for some resources, given the room for inclusions in templates. -/
def plan (s : Settings) (room : Nat) (resources : List Resource) : Option Plan :=
  ((s.eligible resources).mapM (s.registrationFor? room)).map (⟨·, s.planReport resources⟩)

/-! ## What is told about it -/

/-- What is told about the identity of a resource. -/
def identityEvent : Except IdentityFault Identity → Event
  | .ok i => .resourceListed i
  | .error fault => .resourceSkipped fault

/-- What is told about a filter that is of no use. -/
def filterEvent? (expression : String) : Option Event :=
  match CompiledFilter.ofText? expression with
  | .ok _ => none
  | .error fault => some (.filterIgnored expression fault)

/-- The templates that are filled in for some services, in their order. -/
def fillings (s : Settings) (services : List Identity) : List Filling :=
  services.flatMap fun i => s.templates.zipIdx.map fun (t, n) => ⟨i, n, t⟩

/-- What is told about a plan, up to the first template that has no result. -/
def planEvents (s : Settings) (room : Nat) (resources : List Resource) : List Event :=
  let services := s.services resources
  let eligible := s.eligible resources
  (s.identities resources).map identityEvent
    ++ s.filters.filterMap filterEvent?
    ++ s.exclusions.filterMap filterEvent?
    ++ ((FilterSet.ofTexts s.filters s.exclusions).dropped services).map .serviceExcluded
    ++ [.servicesFiltered services.length eligible.length]
    ++ ((s.fillings eligible).takeWhile (·.hasResult room)).filterMap (·.event? room)

end Settings

end GatewayRegistrar
