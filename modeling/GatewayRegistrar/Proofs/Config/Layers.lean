import GatewayRegistrar.CommandLine.Invocation
import Mathlib.Data.List.Induction

/-!
# Layers of settings

What overrides a configuration is a layer: a value for some of the settings. A layer lies over a configuration
(`Layer.upon`), or above another layer (`Layer.above`). One variable of the environment is a layer
(`withVariable_eq`), so by induction are all of them (`override_eq`), and so are the options of a command line
(`applyTo_eq`). Hence each setting of a configuration in use is that of the highest layer which has it
(`stacks_applyTo_override`), and overriding twice is overriding once (`override_override`).
-/

namespace GatewayRegistrar

open CommandLine

/-- Values for some of the settings. -/
structure Layer where
  region? : Option String := none
  address? : Option String := none
  datacenter? : Option String := none
  interval? : Option String := none
  filters? : Option (List String) := none
  exclusions? : Option (List String) := none
  tags? : Option (List String) := none
  compactTags? : Option Bool := none
  port? : Option UInt16 := none
deriving DecidableEq, Repr

namespace Layer

/-- The configuration with the settings of the layer in place. -/
def upon (l : Layer) (c : Config) : Config where
  metadata := c.metadata
  region := l.region?.getD c.region
  agent := { address := l.address?.getD c.agent.address, datacenter? := l.datacenter? <|> c.agent.datacenter? }
  polling := {
    interval := l.interval?.getD c.polling.interval
    filters := l.filters?.getD c.polling.filters
    exclusions := l.exclusions?.getD c.polling.exclusions
    tags := l.tags?.getD c.polling.tags
    compactTags := l.compactTags?.getD c.polling.compactTags }
  policy := { c.policy with port := l.port?.getD c.policy.port }

/-- The settings of both layers; where both have a value, that of the upper one. -/
def above (l m : Layer) : Layer where
  region? := l.region? <|> m.region?
  address? := l.address? <|> m.address?
  datacenter? := l.datacenter? <|> m.datacenter?
  interval? := l.interval? <|> m.interval?
  filters? := l.filters? <|> m.filters?
  exclusions? := l.exclusions? <|> m.exclusions?
  tags? := l.tags? <|> m.tags?
  compactTags? := l.compactTags? <|> m.compactTags?
  port? := l.port? <|> m.port?

variable {l m : Layer} {c : Config}

theorem upon_upon (l m : Layer) (c : Config) : l.upon (m.upon c) = (l.above m).upon c := by
  simp only [upon, above, Option.orElse_eq_orElse, Option.orElse_eq_or, Option.getD_or, Option.or_assoc]

@[simp] theorem above_self (l : Layer) : l.above l = l := by simp [above]

@[simp] theorem empty_upon (c : Config) : upon {} c = c := by simp [upon]

/-! ## The environment -/

/-- The last value that can be read of the variable for a path. -/
def lastGiven {α : Type} (path : String) (read : String → Option α) (env : Environment) : Option α :=
  (env.filterMap fun e => if e.1 = "GATEWAY_SYNC_" ++ path then read e.2 else none).getLast?

/-- The settings of the variables for this program. -/
def ofVariables (env : Environment) : Layer where
  region? := lastGiven "AWS__REGION" some env
  address? := lastGiven "CONSUL__ADDRESS" (some ∘ withScheme) env
  datacenter? := lastGiven "CONSUL__DATACENTER" some env
  interval? := lastGiven "SYNC__INTERVAL" some env
  compactTags? := lastGiven "SYNC__COMPACT_TAGS" Setting.booleanOf? env
  port? := lastGiven "REGISTRATION__PORT" Setting.portOf? env

/-- The setting of the agent's own variable. -/
def ofAgentVariable (env : Environment) : Layer where
  address? := (entryOf? "CONSUL_HTTP_ADDR" env).map withScheme

/-- The settings of the environment. -/
def ofEnvironment (env : Environment) : Layer := (ofVariables env).above (ofAgentVariable env)

theorem lastGiven_append {α : Type} (path : String) (read : String → Option α) (env more : Environment) :
    lastGiven path read (env ++ more) = (lastGiven path read more <|> lastGiven path read env) := by
  simp [lastGiven]

theorem ofVariables_append (env more : Environment) :
    ofVariables (env ++ more) = (ofVariables more).above (ofVariables env) := by
  simp only [ofVariables, above, lastGiven_append]
  rfl

theorem lastGiven_singleton {α : Type} (path : String) (read : String → Option α) (e : String × String) :
    lastGiven path read [e] = if e.1 = "GATEWAY_SYNC_" ++ path then read e.2 else none := by
  simp only [lastGiven, List.filterMap_cons, List.filterMap_nil]
  split <;> simp_all

/-- An address that the environment gives is one with a scheme. -/
theorem hasScheme_withScheme (address : String) : hasScheme (withScheme address) = true := by
  unfold withScheme
  split
  · assumption
  · simp [hasScheme, startsWith, String.toList_append, dropStart?]

theorem hasScheme_of_ofEnvironment {env : Environment} {address : String}
    (h : (ofEnvironment env).address? = some address) : hasScheme address = true := by
  have hgiven : lastGiven "CONSUL__ADDRESS" (some ∘ withScheme) env = some address ∨
      (entryOf? "CONSUL_HTTP_ADDR" env).map withScheme = some address := by
    simp only [ofEnvironment, above, ofVariables, ofAgentVariable, Option.orElse_eq_orElse, Option.orElse_eq_or,
      Option.or_eq_some_iff] at h
    exact h.imp_right And.right
  rcases hgiven with h | h
  · obtain ⟨e, _, he⟩ := List.mem_filterMap.1 (List.mem_of_getLast? h)
    split at he
    · cases he
      exact hasScheme_withScheme e.2
    · cases he
  · obtain ⟨given, _, rfl⟩ := Option.map_eq_some_iff.1 h
    exact hasScheme_withScheme given

/-! ## Options -/

/-- A list that is given, if it is not empty. -/
def givenList? (given : List String) : Option (List String) := if given.isEmpty then none else some given

/-- The settings of a command line. -/
def ofOptions (o : Options) : Layer where
  region? := o.region?
  address? := o.address?
  interval? := o.sleep?.map fun n => String.ofList (decimalText n ++ ['s'])
  filters? := givenList? o.filters
  exclusions? := givenList? o.exclusions
  tags? := givenList? o.tags

end Layer

/-! ## Configurations under layers -/

theorem pathOf?_eq_some_iff {name path : String} :
    Setting.pathOf? name = some path ↔ name = "GATEWAY_SYNC_" ++ path := by
  simp only [Setting.pathOf?, Option.map_eq_some_iff, dropStart?_eq_some_iff]
  constructor
  · rintro ⟨cs, hcs, rfl⟩
    rw [← String.ofList_toList (s := name), hcs, String.ofList_append]
    simp
  · rintro rfl
    exact ⟨path.toList, by simp, by simp⟩

namespace Config

open Layer

/-- A variable of the environment is a layer. -/
theorem withVariable_eq (c : Config) (e : String × String) : c.withVariable e = (ofVariables [e]).upon c := by
  simp only [withVariable, Setting.ofVariable?, ofVariables, lastGiven_singleton, ← pathOf?_eq_some_iff]
  cases hpath : Setting.pathOf? e.1 with
  | none => simp [upon]
  | some path =>
    simp only [Option.map_some, Option.some.injEq, Setting.ofPath]
    by_cases hregion : path = "AWS__REGION"
    · simp [hregion, upon, Setting.apply]
    by_cases haddress : path = "CONSUL__ADDRESS"
    · simp [haddress, upon, Setting.apply]
    by_cases hdatacenter : path = "CONSUL__DATACENTER"
    · simp [hdatacenter, upon, Setting.apply]
    by_cases hinterval : path = "SYNC__INTERVAL"
    · simp [hinterval, upon, Setting.apply]
    by_cases hcompact : path = "SYNC__COMPACT_TAGS"
    · cases Setting.booleanOf? e.2 <;> simp [hcompact, upon, Setting.apply]
    by_cases hport : path = "REGISTRATION__PORT"
    · cases Setting.portOf? e.2 <;> simp [hport, upon, Setting.apply]
    simp [hregion, haddress, hdatacenter, hinterval, hcompact, hport, upon]

theorem foldl_withVariable (env : Environment) (c : Config) :
    env.foldl withVariable c = (ofVariables env).upon c := by
  induction env using List.reverseRecOn with
  | nil => exact (empty_upon c).symm
  | append_singleton env e ih =>
    rw [List.foldl_append, ih, List.foldl_cons, List.foldl_nil, withVariable_eq, upon_upon, ofVariables_append]

theorem withAgentVariable_eq (env : Environment) (c : Config) :
    c.withAgentVariable env = (ofAgentVariable env).upon c := by
  simp only [withAgentVariable, ofAgentVariable]
  cases entryOf? "CONSUL_HTTP_ADDR" env with
  | none => rfl
  | some address => rfl

/-- **The environment is a layer.** -/
theorem override_eq (env : Environment) (c : Config) : c.override env = (ofEnvironment env).upon c := by
  rw [override, foldl_withVariable, withAgentVariable_eq, upon_upon, ofEnvironment]

/-- **The options of a command line are a layer.** -/
theorem applyTo_eq (o : Options) (c : Config) : o.applyTo c = (ofOptions o).upon c := by
  have hlist : ∀ given fallback, Options.listOr given fallback = (givenList? given).getD fallback := by
    intro given fallback
    simp only [Options.listOr, givenList?]
    split <;> rfl
  simp [Options.applyTo, ofOptions, upon, hlist]

/-- Overriding twice is overriding once. -/
theorem override_override (env : Environment) (c : Config) : (c.override env).override env = c.override env := by
  simp only [override_eq, upon_upon, above_self]

/-! ## The configuration in use -/

/-- Each setting is that of the highest layer which has one: of the options, the environment and the configuration
below them. -/
structure Stacks (o : Options) (env : Environment) (base c : Config) : Prop where
  metadata : c.metadata = base.metadata
  region : c.region = (o.region? <|> lastGiven "AWS__REGION" some env).getD base.region
  address : c.agent.address = (o.address? <|> lastGiven "CONSUL__ADDRESS" (some ∘ withScheme) env <|>
    (entryOf? "CONSUL_HTTP_ADDR" env).map withScheme).getD base.agent.address
  datacenter : c.agent.datacenter? = (lastGiven "CONSUL__DATACENTER" some env <|> base.agent.datacenter?)
  interval : c.polling.interval = (o.sleep?.map (fun n => String.ofList (decimalText n ++ ['s'])) <|>
    lastGiven "SYNC__INTERVAL" some env).getD base.polling.interval
  filters : c.polling.filters = (givenList? o.filters).getD base.polling.filters
  exclusions : c.polling.exclusions = (givenList? o.exclusions).getD base.polling.exclusions
  tags : c.polling.tags = (givenList? o.tags).getD base.polling.tags
  compactTags : c.polling.compactTags =
    (lastGiven "SYNC__COMPACT_TAGS" Setting.booleanOf? env).getD base.polling.compactTags
  port : c.policy.port = (lastGiven "REGISTRATION__PORT" Setting.portOf? env).getD base.policy.port
  nodeMeta : c.policy.nodeMeta = base.policy.nodeMeta
  serviceMeta : c.policy.serviceMeta = base.policy.serviceMeta

/-- **The options lie over the environment, and the environment over the configuration.** -/
theorem stacks_applyTo_override (o : Options) (env : Environment) (base : Config) :
    Stacks o env base (o.applyTo (base.override env)) := by
  rw [applyTo_eq, override_eq, upon_upon]
  constructor <;> simp [upon, above, ofOptions, ofEnvironment, ofVariables, ofAgentVariable]

end Config
end GatewayRegistrar
