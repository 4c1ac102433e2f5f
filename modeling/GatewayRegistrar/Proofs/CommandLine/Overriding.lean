import GatewayRegistrar.Proofs.Config.Interval

/-!
# Options after options

Each option is for one setting of a configuration, and gives it or does not (`SettingOption.current_applyTo`). What
options do is told by these settings, since they leave everything else alone (`Config.eq_of_current`). So the options of
two command lines, one after the other, do what those of one do in which the later options stand over the earlier ones
(`applyTo_applyTo`).
-/

namespace GatewayRegistrar

open CommandLine

variable {c d : Config}

/-- The options of both, where the upper ones stand over the lower ones: an option that is given above is taken from
there, and any other from below. A list is given when it is not empty. -/
def CommandLine.Options.over (upper lower : Options) : Options where
  region? := if upper.region? = none then lower.region? else upper.region?
  filters := if upper.filters = [] then lower.filters else upper.filters
  exclusions := if upper.exclusions = [] then lower.exclusions else upper.exclusions
  tags := if upper.tags = [] then lower.tags else upper.tags
  sleep? := if upper.sleep? = none then lower.sleep? else upper.sleep?
  address? := if upper.address? = none then lower.address? else upper.address?

/-- The options, each for one setting. -/
inductive SettingOption where
  | region
  | filters
  | exclusions
  | tags
  | sleep
  | address
deriving DecidableEq, Repr

namespace SettingOption

/-- What is given for the option, as texts: none when it is not given. -/
def given : SettingOption → Options → List String
  | region, o => o.region?.toList
  | filters, o => o.filters
  | exclusions, o => o.exclusions
  | tags, o => o.tags
  | sleep, o => (o.sleep?.map fun n => String.ofList (decimalText n ++ ['s'])).toList
  | address, o => o.address?.toList

/-- The setting that the option is for, as texts. -/
def current : SettingOption → Config → List String
  | region, c => [c.region]
  | filters, c => c.polling.filters
  | exclusions, c => c.polling.exclusions
  | tags, c => c.polling.tags
  | sleep, c => [c.polling.interval]
  | address, c => [c.agent.address]

/-- **An option that is given replaces its setting**, and one that is not given leaves it as it was. -/
theorem current_applyTo (x : SettingOption) (o : Options) (c : Config) :
    x.current (o.applyTo c) = if x.given o = [] then x.current c else x.given o := by
  have hlist : ∀ given fallback : List String,
      Options.listOr given fallback = if given = [] then fallback else given := by
    intro given fallback
    rw [Options.listOr]
    exact if_congr List.isEmpty_iff rfl rfl
  have htext : ∀ (given? : Option String) (fallback : String),
      [given?.getD fallback] = if given?.toList = [] then [fallback] else given?.toList := by
    intro given? fallback
    cases given? <;> simp
  cases x with
  | filters | exclusions | tags => exact hlist _ _
  | region | address | sleep => exact htext _ _

/-- What is given by options over options. -/
theorem given_over (x : SettingOption) (a b : Options) :
    x.given (b.over a) = if x.given b = [] then x.given a else x.given b := by
  cases x with
  | filters | exclusions | tags => rfl
  | region => cases h : b.region? <;> simp [given, Options.over, h]
  | address => cases h : b.address? <;> simp [given, Options.over, h]
  | sleep => cases h : b.sleep? <;> simp [given, Options.over, h]

end SettingOption

namespace Config

open SettingOption

/-- What no option is for is the same in both configurations. -/
structure SameBeneath (c d : Config) : Prop where
  metadata : c.metadata = d.metadata
  datacenter : c.agent.datacenter? = d.agent.datacenter?
  compactTags : c.polling.compactTags = d.polling.compactTags
  policy : c.policy = d.policy

/-- **Options leave everything else alone.** -/
theorem sameBeneath_applyTo (o : Options) (c : Config) : SameBeneath (o.applyTo c) c := ⟨rfl, rfl, rfl, rfl⟩

/-- Configurations are equal when they agree in the setting of each option and in everything else. -/
theorem eq_of_current (hbeneath : SameBeneath c d) (h : ∀ x : SettingOption, x.current c = x.current d) : c = d := by
  obtain ⟨metadata, region, ⟨address, datacenter⟩, ⟨interval, filters, exclusions, tags, compactTags⟩, policy⟩ := c
  obtain ⟨metadata', region', ⟨address', datacenter'⟩, ⟨interval', filters', exclusions', tags', compactTags'⟩,
    policy'⟩ := d
  obtain ⟨hmetadata, hdatacenter, hcompact, hpolicy⟩ := hbeneath
  have hregion : [region] = [region'] := h .region
  have haddress : [address] = [address'] := h .address
  have hinterval : [interval] = [interval'] := h .sleep
  have hfilters : filters = filters' := h .filters
  have hexclusions : exclusions = exclusions' := h .exclusions
  have htags : tags = tags' := h .tags
  simp_all

/-- **Options after options** do what the later ones over the earlier ones do. -/
theorem applyTo_applyTo (a b : Options) (c : Config) : b.applyTo (a.applyTo c) = (b.over a).applyTo c := by
  refine eq_of_current ⟨rfl, rfl, rfl, rfl⟩ fun x => ?_
  simp only [current_applyTo, given_over]
  by_cases hb : x.given b = []
  · simp only [hb, ↓reduceIte]
  · simp only [hb, ↓reduceIte]

/-- The same options once more change nothing. -/
theorem applyTo_self (o : Options) (c : Config) : o.applyTo (o.applyTo c) = o.applyTo c := by
  refine eq_of_current ⟨rfl, rfl, rfl, rfl⟩ fun x => ?_
  simp only [current_applyTo]
  split <;> rfl

/-- The option for the pause is read back as just so many seconds. -/
theorem pause?_sleep (o : Options) (n : UInt64) (c : Config) :
    (({ o with sleep? := some n.toNat } : Options).applyTo c).polling.pause?.map (fun d => (d.seconds, d.nanoseconds)) =
      some (n.toNat, 0) := by
  have hn : n.toNat < Interval.bound := Interval.bound_eq ▸ n.toNat_lt_size
  rw [Interval.pause?_applyTo (o := { o with sleep? := some n.toNat }) rfl hn]
  simp [Interval.seconds, Interval.nanoseconds]

/-- **Options after options** are the later ones over the earlier ones, of which each option is taken from where it is
given last; the same options twice are those options once. An option that is given replaces its setting, also where
this is a list, and one that is not given leaves it as it was. Nothing else is touched. The option for the pause gives
exactly so many seconds, however large the number. -/
theorem options_after_options (a b : Options) (c : Config) :
    b.applyTo (a.applyTo c) = (b.over a).applyTo c ∧
    (∀ x : SettingOption, x.given (b.over a) = if x.given b = [] then x.given a else x.given b) ∧
    a.applyTo (a.applyTo c) = a.applyTo c ∧
    (∀ x : SettingOption, x.current (a.applyTo c) = if x.given a = [] then x.current c else x.given a) ∧
    SameBeneath (a.applyTo c) c ∧
    ∀ n : UInt64, (({ a with sleep? := some n.toNat } : Options).applyTo c).polling.pause?.map
      (fun d => (d.seconds, d.nanoseconds)) = some (n.toNat, 0) :=
  ⟨applyTo_applyTo a b c, fun x => given_over x a b, applyTo_self a c, fun x => current_applyTo x a c,
    sameBeneath_applyTo a c, fun n => pause?_sleep a n c⟩

/-- A list that is given later replaces one that was given before, and an empty one does not. -/
example :
    let a : Options := { filters := ["Name=tag:env,Values=dev", "Name=tag:team,Values=core"], tags := ["a"] }
    let b : Options := { filters := ["Name=tag:env,Values=prod"], sleep? := some 18446744073709551615 }
    let c := b.applyTo (a.applyTo (.standard "now"))
    c.polling.filters = ["Name=tag:env,Values=prod"] ∧ c.polling.tags = ["a"] ∧
      c.polling.interval = "18446744073709551615s" := by
  decide +kernel

end Config
end GatewayRegistrar
