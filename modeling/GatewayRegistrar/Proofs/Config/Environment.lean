import GatewayRegistrar.Config.Validation
import GatewayRegistrar.Proofs.Config.Layers
import GatewayRegistrar.Proofs.Text.Digits
import GatewayRegistrar.Proofs.Value.Entries

/-!
# Settings by the names of variables

Where each variable of an environment has a name of its own, all that counts is which value stands under which name
(`override_eq_under`). So the order of the variables does not matter, and two environments that differ in one variable
give configurations that differ in one setting (`blank_under`), or in none if the value cannot be used or the name
is not known (`under_of_not_accepts`, `under_congr`).
-/

namespace GatewayRegistrar

/-! ## Variables -/

/-- The variables that give one setting each. -/
inductive SettingVariable where
  | region
  | address
  | datacenter
  | interval
  | compactTags
  | port
deriving DecidableEq, Repr

namespace SettingVariable

/-- The name of the variable. -/
def name : SettingVariable → String
  | region => "GATEWAY_SYNC_AWS__REGION"
  | address => "GATEWAY_SYNC_CONSUL__ADDRESS"
  | datacenter => "GATEWAY_SYNC_CONSUL__DATACENTER"
  | interval => "GATEWAY_SYNC_SYNC__INTERVAL"
  | compactTags => "GATEWAY_SYNC_SYNC__COMPACT_TAGS"
  | port => "GATEWAY_SYNC_REGISTRATION__PORT"

/-- Whether a value can be used. A truth value is written out, a port is a whole number of 16 bits, behind an optional
plus sign; everything else may be any text. -/
def Accepts : SettingVariable → String → Prop
  | compactTags, value => value = "true" ∨ value = "false"
  | port, value => ∃ digits, (value.toList = digits ∨ value.toList = '+' :: digits) ∧ digits ≠ [] ∧
      (∀ d ∈ digits, d.isDigit = true) ∧ numberOf 10 digits < 65536
  | _, _ => True

/-- The configuration without the setting of the variable. -/
def blank : SettingVariable → Config → Config
  | region, c => { c with region := "" }
  | address, c => { c with agent := { c.agent with address := "" } }
  | datacenter, c => { c with agent := { c.agent with datacenter? := none } }
  | interval, c => { c with polling := { c.polling with interval := "" } }
  | compactTags, c => { c with polling := { c.polling with compactTags := false } }
  | port, c => { c with policy := { c.policy with port := 0 } }

theorem isSome_booleanOf?_iff {value : String} :
    (Setting.booleanOf? value).isSome = true ↔ compactTags.Accepts value := by
  unfold Setting.booleanOf? Accepts
  split
  · simp_all
  · split <;> simp_all

theorem isSome_portOf?_iff {value : String} : (Setting.portOf? value).isSome = true ↔ port.Accepts value := by
  have hread : (Setting.portOf? value).isSome = true ↔ ∃ n, wholeBelow? 65536 value.toList = some n := by
    rw [Setting.portOf?, Option.isSome_map, Option.isSome_iff_exists]
  rw [hread]
  simp only [wholeBelow?_eq_some_iff]
  constructor
  · rintro ⟨_, digits, htext, hne, hdigits, rfl, hbound⟩
    exact ⟨digits, htext, hne, hdigits, hbound⟩
  · rintro ⟨digits, htext, hne, hdigits, hbound⟩
    exact ⟨_, digits, htext, hne, hdigits, rfl, hbound⟩

end SettingVariable

/-! ## Configurations under variables -/

namespace Config

/-- The configuration with the settings of variables, given what stands under each name. -/
def under (value? : String → Option String) (c : Config) : Config where
  metadata := c.metadata
  region := (value? SettingVariable.region.name).getD c.region
  agent := {
    address :=
      (((value? SettingVariable.address.name).or (value? "CONSUL_HTTP_ADDR")).map withScheme).getD c.agent.address
    datacenter? := (value? SettingVariable.datacenter.name).or c.agent.datacenter? }
  polling := { c.polling with
    interval := (value? SettingVariable.interval.name).getD c.polling.interval
    compactTags := ((value? SettingVariable.compactTags.name).bind Setting.booleanOf?).getD c.polling.compactTags }
  policy := { c.policy with port := ((value? SettingVariable.port.name).bind Setting.portOf?).getD c.policy.port }

variable {c : Config} {env : Environment} {f g : String → Option String}

/-- Of variables with distinct names, the last one for a path is the one with its name. -/
theorem lastGiven_of_nodup {α : Type} (path : String) (read : String → Option α) (h : (env.map (·.1)).Nodup) :
    Layer.lastGiven path read env = (entryOf? ("GATEWAY_SYNC_" ++ path) env).bind read := by
  induction env using List.reverseRecOn with
  | nil => rfl
  | append_singleton env e ih =>
    rw [List.map_append, List.map_singleton, List.nodup_append] at h
    obtain ⟨henv, _, hnew⟩ := h
    rw [Layer.lastGiven_append, ih henv, Layer.lastGiven_singleton, entryOf?_append, entryOf?_cons]
    by_cases hname : e.1 = "GATEWAY_SYNC_" ++ path
    · have hnone : entryOf? ("GATEWAY_SYNC_" ++ path) env = none :=
        entryOf?_eq_none_iff.2 fun hmem => hnew _ hmem e.1 (List.mem_singleton_self _) hname.symm
      simp [hname, hnone]
    · simp [hname, entryOf?]

/-- **Only the value under each name counts.** -/
theorem override_eq_under (c : Config) (h : (env.map (·.1)).Nodup) :
    c.override env = c.under fun name => entryOf? name env := by
  have hsome : ∀ o : Option String, o.bind some = o := fun o => by cases o <;> rfl
  have hscheme : ∀ o : Option String, o.bind (some ∘ withScheme) = o.map withScheme := fun o => by cases o <;> rfl
  simp only [override_eq, Layer.upon, Layer.ofEnvironment, Layer.above, Layer.ofVariables, Layer.ofAgentVariable,
    lastGiven_of_nodup _ _ h, hsome, hscheme, under, SettingVariable.name, Option.orElse_eq_orElse, Option.orElse_eq_or,
    Option.map_or, Option.or_none]
  rfl

/-- What stands under other names does not count. -/
theorem under_congr (hagent : f "CONSUL_HTTP_ADDR" = g "CONSUL_HTTP_ADDR")
    (h : ∀ x : SettingVariable, f x.name = g x.name) : c.under f = c.under g := by
  simp only [under, hagent, h]

/-- **A variable changes its own setting only.** -/
theorem blank_under {x : SettingVariable} (h : ∀ name, name ≠ x.name → f name = g name) :
    x.blank (c.under f) = x.blank (c.under g) := by
  have hother : ∀ y : SettingVariable, y.name ≠ x.name → f y.name = g y.name := fun y => h y.name
  have hagent : f "CONSUL_HTTP_ADDR" = g "CONSUL_HTTP_ADDR" := h _ (by cases x <;> decide)
  cases x <;> simp (disch := decide) only [SettingVariable.blank, under, hother, hagent]

/-- A value that cannot be used changes nothing. -/
theorem under_of_not_accepts {x : SettingVariable} {value : String} (hf : f x.name = some value)
    (hg : g x.name = none) (h : ∀ name, name ≠ x.name → f name = g name) (hvalue : ¬ x.Accepts value) :
    c.under f = c.under g := by
  have hother : ∀ y : SettingVariable, y.name ≠ x.name → f y.name = g y.name := fun y => h y.name
  have hagent : f "CONSUL_HTTP_ADDR" = g "CONSUL_HTTP_ADDR" := h _ (by cases x <;> decide)
  cases x with
  | compactTags =>
    have hnone : Setting.booleanOf? value = none := Option.not_isSome_iff_eq_none.1
      (mt SettingVariable.isSome_booleanOf?_iff.1 hvalue)
    simp (disch := decide) only [under, hother, hagent, hf, hg, Option.bind_some, Option.bind_none, hnone]
  | port =>
    have hnone : Setting.portOf? value = none := Option.not_isSome_iff_eq_none.1
      (mt SettingVariable.isSome_portOf?_iff.1 hvalue)
    simp (disch := decide) only [under, hother, hagent, hf, hg, Option.bind_some, Option.bind_none, hnone]
  | region | address | datacenter | interval => exact absurd trivial hvalue

/-! ## One variable among others -/

section Among

variable {name value : String} {front back : Environment}

/-- Without a variable, what stands under the other names stays. -/
theorem entryOf?_without {k : String} (hk : k ≠ name) :
    entryOf? k (front ++ (name, value) :: back) = entryOf? k (front ++ back) := by
  rw [entryOf?_append, entryOf?_append, entryOf?_cons, if_neg hk.symm]

theorem nodup_without (h : ((front ++ (name, value) :: back).map (·.1)).Nodup) :
    ((front ++ back).map (·.1)).Nodup :=
  h.sublist ((List.sublist_cons_self (name, value) back).append_left front |>.map _)

/-- Under its own name a variable has its value, and without it there is none. -/
theorem entryOf?_own (h : ((front ++ (name, value) :: back).map (·.1)).Nodup) :
    entryOf? name (front ++ (name, value) :: back) = some value ∧ entryOf? name (front ++ back) = none := by
  have hsingle := singleValued_of_nodup h
  refine ⟨hsingle.entryOf?_eq_some_iff.2 (by simp), entryOf?_eq_none_iff.2 ?_⟩
  rw [List.map_append, List.map_cons, List.nodup_append, List.nodup_cons] at h
  obtain ⟨_, ⟨hback, _⟩, hfront⟩ := h
  rw [List.map_append, List.mem_append, not_or]
  exact ⟨fun hmem => hfront name hmem name List.mem_cons_self rfl, hback⟩

end Among

theorem addressScheme_notMem_violations (h : hasScheme c.agent.address = true) (a : String) :
    .addressScheme a ∉ c.violations := by
  have hcheck : ∀ holds v, .addressScheme a ∈ check holds v → v = .addressScheme a := fun holds v hmem => by
    cases holds <;> simp [check] at hmem
    exact hmem.symm
  intro hmem
  simp only [violations, h, List.mem_append] at hmem
  rcases hmem with (((hmem | hmem) | hmem) | hmem) | hmem
  · cases hcheck _ _ hmem
  · cases hcheck _ _ hmem
  · simp [check] at hmem
  · cases hcheck _ _ hmem
  · cases hcheck _ _ hmem

/-- **Settings from an environment**, whose variables have distinct names. Only the value under each name counts, so
the variables may come in any order, and the registrar's own variable for the address counts more than the agent's.
Each variable changes its own setting only, and none if its value cannot be used; variables with other names change
nothing. An address from the environment has a scheme, and overriding twice is overriding once. -/
theorem override_by_names (c : Config) (env : Environment) (h : (env.map (·.1)).Nodup) :
    c.override env = (c.under fun name => entryOf? name env) ∧
    (∀ order : Environment, order.Perm env → c.override order = c.override env) ∧
    (∀ a, ("GATEWAY_SYNC_CONSUL__ADDRESS", a) ∈ env → (c.override env).agent.address = withScheme a) ∧
    (∀ (x : SettingVariable) (value : String) (front back : Environment), env = front ++ (x.name, value) :: back →
      x.blank (c.override env) = x.blank (c.override (front ++ back)) ∧
        (¬ x.Accepts value → c.override env = c.override (front ++ back))) ∧
    (∀ (name value : String) (front back : Environment), env = front ++ (name, value) :: back →
      name ≠ "CONSUL_HTTP_ADDR" → (∀ x : SettingVariable, x.name ≠ name) →
        c.override env = c.override (front ++ back)) ∧
    (∀ e ∈ env, e.1 = "CONSUL_HTTP_ADDR" ∨ e.1 = "GATEWAY_SYNC_CONSUL__ADDRESS" →
      ∀ a, .addressScheme a ∉ (c.override env).violations) ∧
    (c.override env).override env = c.override env := by
  have hsingle := singleValued_of_nodup h
  refine ⟨override_eq_under c h, fun order horder => ?_, fun a ha => ?_, ?_, ?_, fun e he hname => ?_,
    override_override env c⟩
  · rw [override_eq_under c h, override_eq_under c ((horder.map _).nodup_iff.2 h)]
    exact congrArg c.under (funext (hsingle.entryOf?_perm horder))
  · simp only [override_eq_under c h, under, SettingVariable.name, hsingle.entryOf?_eq_some_iff.2 ha, Option.some_or,
      Option.map_some, Option.getD_some]
  · rintro x value front back rfl
    obtain ⟨hown, hnone⟩ := entryOf?_own h
    rw [override_eq_under c h, override_eq_under c (nodup_without h)]
    exact ⟨blank_under fun _ => entryOf?_without, under_of_not_accepts hown hnone fun _ => entryOf?_without⟩
  · rintro name value front back rfl hagent hknown
    rw [override_eq_under c h, override_eq_under c (nodup_without h)]
    exact under_congr (entryOf?_without hagent.symm) fun x => entryOf?_without (hknown x)
  · have hgiven : ∃ v, (entryOf? SettingVariable.address.name env).or (entryOf? "CONSUL_HTTP_ADDR" env) = some v := by
      have hlook : entryOf? e.1 env = some e.2 := hsingle.entryOf?_eq_some_iff.2 he
      rcases hname with hname | hname
      · rw [hname] at hlook
        cases hfirst : entryOf? SettingVariable.address.name env with
        | none => exact ⟨e.2, hlook⟩
        | some v => exact ⟨v, rfl⟩
      · rw [hname] at hlook
        exact ⟨e.2, by rw [SettingVariable.name, hlook, Option.some_or]⟩
    obtain ⟨v, hv⟩ := hgiven
    refine addressScheme_notMem_violations ?_
    simp only [override_eq_under c h, under, hv, Option.map_some, Option.getD_some, Layer.hasScheme_withScheme]

/-- A port that is none, two addresses, and a variable of another program. -/
theorem override_by_names_of_orders :
    let env : Environment := [("GATEWAY_SYNC_REGISTRATION__PORT", "https"), ("CONSUL_HTTP_ADDR", "agent:8500"),
      ("PATH", "/bin"), ("GATEWAY_SYNC_CONSUL__ADDRESS", "consul:8500")]
    let c := Config.standard "now"
    (env.map (·.1)).Nodup ∧ env.reverse.Perm env ∧ c.override env.reverse = c.override env ∧
      (c.override env).agent.address = "http://consul:8500" ∧ ¬ SettingVariable.port.Accepts "https" ∧
      c.override env = c.override env.tail := by
  intro env c
  have h : (env.map (·.1)).Nodup := by decide
  have horder : env.reverse.Perm env := List.reverse_perm env
  have hport : ¬ SettingVariable.port.Accepts "https" := by
    rw [← SettingVariable.isSome_portOf?_iff]
    decide
  obtain ⟨_, hperm, haddress, hvariable, _⟩ := override_by_names c env h
  exact ⟨h, horder, hperm _ horder, haddress "consul:8500" (by decide), hport,
    (hvariable .port "https" [] env.tail rfl).2 hport⟩

end Config

end GatewayRegistrar
