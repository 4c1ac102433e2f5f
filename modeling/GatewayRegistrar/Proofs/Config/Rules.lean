import GatewayRegistrar.Config.Document
import GatewayRegistrar.Proofs.Config.Validity
import GatewayRegistrar.Proofs.Text.Blank
import GatewayRegistrar.Proofs.Text.Cut

/-!
# The rules of a configuration

Each of the five rules is about one entry of a configuration (`Rule.Agrees`) and says something of it that does not
speak of checks (`Rule.Holds`). The violations are those of the rules that do not hold, in the order of the rules
(`violations_eq`). So what a rule contributes depends on its own entry alone: repairing the entry takes away its
violation and no other (`findings_of_repaired`), and what no rule is about does not count (`violations_congr`).
-/

namespace GatewayRegistrar

/-- The rules, each for one entry of a configuration. -/
inductive Rule where
  | schemaVersion
  | region
  | address
  | interval
  | port
deriving DecidableEq, Repr

namespace Rule

/-- The rules, in the order in which violations are named. -/
def all : List Rule := [schemaVersion, region, address, interval, port]

/-- The entry that the rule is about. -/
def path : Rule → String
  | schemaVersion => "_meta.schema_version"
  | region => "aws.region"
  | address => "consul.address"
  | interval => "sync.interval"
  | port => "registration.port"

/-- What the rule says of a configuration. -/
def Holds : Rule → Config → Prop
  | schemaVersion, c => c.metadata.schemaVersion = "1.0.0"
  | region, c => ∃ ch ∈ c.region.toList, isBlank ch = false
  | address, c => "http://".toList <+: c.agent.address.toList ∨ "https://".toList <+: c.agent.address.toList
  | interval, c => ∃ pause, Interval.ofText? c.polling.interval = some pause ∧ 0 < pause.milliseconds
  | port, c => c.policy.port ≠ 0

/-- The configurations have the same entry for the rule. -/
def Agrees : Rule → Config → Config → Prop
  | schemaVersion, c, d => c.metadata.schemaVersion = d.metadata.schemaVersion
  | region, c, d => c.region = d.region
  | address, c, d => c.agent.address = d.agent.address
  | interval, c, d => c.polling.interval = d.polling.interval
  | port, c, d => c.policy.port = d.policy.port

/-- How the rule is violated where it does not hold. -/
def violation : Rule → Config → Violation
  | schemaVersion, c => .schemaVersion c.metadata.schemaVersion
  | region, _ => .emptyRegion
  | address, c => .addressScheme c.agent.address
  | interval, c => .interval c.polling.interval
  | port, _ => .zeroPort

variable {r s : Rule} {c d : Config}

theorem mem_all (r : Rule) : r ∈ all := by cases r <;> decide

theorem path_injective (h : r.path = s.path) : r = s := by
  cases r <;> cases s <;> first | rfl | exact absurd h (by decide)

@[simp] theorem path_finding (r : Rule) (c : Config) : (r.violation c).finding.path = r.path := by
  cases r <;> rfl

theorem Agrees.holds_iff (h : r.Agrees c d) : r.Holds c ↔ r.Holds d := by
  cases r <;> simp only [Agrees] at h <;> simp only [Holds, h]

theorem Agrees.violation_eq (h : r.Agrees c d) : r.violation c = r.violation d := by
  cases r <;> simp only [Agrees] at h <;> simp only [violation, h]

/-! ## Checks -/

/-- The check of the rule. -/
def isKept : Rule → Config → Bool
  | schemaVersion, c => c.metadata.schemaVersion == GatewayRegistrar.schemaVersion
  | region, c => !(trimmed c.region).isEmpty
  | address, c => hasScheme c.agent.address
  | interval, c => c.polling.hasPause
  | port, c => c.policy.port != 0

/-- Something is left between the blanks exactly where not all is blank. -/
theorem isEmpty_trimmed_iff {s : String} : (trimmed s).isEmpty = false ↔ ∃ ch ∈ s.toList, isBlank ch = false := by
  have hnone : (trimmed s).isEmpty = true ↔ ∀ ch ∈ s.toList, isBlank ch = true := by
    rw [String.isEmpty_iff, trimmed, ← String.ofList_nil, String.ofList_inj, trimBlanks_eq_nil_iff]
  rw [← Bool.not_eq_true, hnone]
  simp only [Classical.not_forall, Bool.not_eq_true, exists_prop]

theorem hasPause_iff {p : Polling} :
    p.hasPause = true ↔ ∃ pause, Interval.ofText? p.interval = some pause ∧ 0 < pause.milliseconds := by
  simp only [Polling.hasPause, Polling.pause?, Option.any_eq_true, Interval.isZero, Bool.not_eq_true',
    beq_eq_false_iff_ne, Nat.pos_iff_ne_zero]

/-- **A rule is checked for what it says.** -/
theorem isKept_iff : r.isKept c = true ↔ r.Holds c := by
  cases r with
  | schemaVersion => exact beq_iff_eq
  | region => rw [isKept, Bool.not_eq_true', isEmpty_trimmed_iff, Holds]
  | address => rw [isKept, hasScheme, Bool.or_eq_true, startsWith_iff, startsWith_iff, Holds]
  | interval => exact hasPause_iff
  | port => exact bne_iff_ne

instance : Decidable (r.Holds c) := decidable_of_iff _ isKept_iff

end Rule

namespace Config

variable {c d : Config} {r : Rule}

/-! ## Violations -/

/-- The rules that do not hold, in order. -/
def broken (c : Config) : List Rule := Rule.all.filter fun r => ¬ r.Holds c

theorem mem_broken : r ∈ c.broken ↔ ¬ r.Holds c := by
  simp [broken, Rule.mem_all]

/-- **The violations are those of the rules that do not hold.** -/
theorem violations_eq (c : Config) : c.violations = c.broken.map (·.violation c) := by
  have hchecks : ∀ rs : List Rule, (rs.flatMap fun r => check (r.isKept c) (r.violation c)) =
      (rs.filter fun r => ¬ r.Holds c).map (·.violation c) := by
    intro rs
    induction rs with
    | nil => rfl
    | cons r rs ih =>
      rw [List.flatMap_cons, ih, List.filter_cons]
      by_cases hr : r.Holds c
      · simp [check, Rule.isKept_iff, hr]
      · simp [check, Rule.isKept_iff, hr]
  rw [broken, ← hchecks]
  simp [violations, Rule.all, Rule.isKept, Rule.violation]

theorem findings_eq (c : Config) :
    c.violations.map (·.finding) = c.broken.map fun r => (r.violation c).finding := by
  rw [violations_eq, List.map_map]
  rfl

theorem isValid_iff_rules : c.isValid = true ↔ ∀ r : Rule, r.Holds c := by
  rw [isValid_iff_violations, violations_eq, List.map_eq_nil_iff, List.eq_nil_iff_forall_not_mem]
  simp only [mem_broken, Classical.not_not]

/-- **What no rule is about does not count.** -/
theorem violations_congr (h : ∀ r : Rule, r.Agrees c d) : c.violations = d.violations := by
  have hbroken : c.broken = d.broken := List.filter_congr fun r _ => by simp only [(h r).holds_iff]
  rw [violations_eq, violations_eq, hbroken]
  exact List.map_congr_left fun r _ => (h r).violation_eq

/-- **Repairing an entry takes away its violation and no other.** -/
theorem findings_of_repaired (hr : r.Holds d) (h : ∀ s : Rule, s ≠ r → s.Agrees c d) :
    d.violations.map (·.finding) = (c.violations.map (·.finding)).filter (·.path ≠ r.path) := by
  have hbroken : d.broken = c.broken.filter (· ≠ r) := by
    rw [broken, broken, List.filter_filter]
    refine List.filter_congr fun s _ => ?_
    by_cases hs : s = r
    · simp [hs, hr]
    · simp [hs, (h s hs).holds_iff]
  have hpath : ∀ s : Rule, (decide ((s.violation c).finding.path ≠ r.path)) = decide (s ≠ r) := by
    intro s
    rw [Rule.path_finding, decide_eq_decide]
    exact not_congr ⟨Rule.path_injective, congrArg Rule.path⟩
  rw [findings_eq, findings_eq, List.filter_map, hbroken]
  simp only [Function.comp_def, hpath]
  refine List.map_congr_left fun s hs => ?_
  have hne : s ≠ r := by simpa using (List.mem_filter.1 hs).2
  rw [(h s hne).violation_eq]

theorem validated_eq_ok_iff : c.validated = .ok c ↔ c.isValid = true := by
  unfold validated
  split <;> simp_all

theorem validated_eq_error (h : ¬ r.Holds c) : c.validated = .error (.invalid c.violations) := by
  have hvalid : ¬ c.isValid = true := fun hvalid => h (isValid_iff_rules.1 hvalid r)
  rw [validated, if_neg hvalid]

/-- **A configuration is accepted when all rules hold**: the schema has the supported version, not all of the region is
blank, the address has a scheme, the interval is read as some time, and the port is not zero. Otherwise the violations
of the rules that do not hold are named, each once and in the order of the rules. Repairing one entry takes away the
finding about it and leaves all others as they were. Nothing but the five entries counts. -/
theorem validated_by_rules (c : Config) :
    (c.validated = .ok c ↔ ∀ r : Rule, r.Holds c) ∧
    (∀ r : Rule, ¬ r.Holds c →
      c.validated = .error (.invalid ((Rule.all.filter fun s => ¬ s.Holds c).map (·.violation c)))) ∧
    (∀ (r : Rule) (d : Config), r.Holds d → (∀ s : Rule, s ≠ r → s.Agrees c d) →
      d.violations.map (·.finding) = (c.violations.map (·.finding)).filter (·.path ≠ r.path)) ∧
    ∀ d : Config, (∀ r : Rule, r.Agrees c d) →
      (c.validated = .ok c ↔ d.validated = .ok d) ∧ c.violations = d.violations := by
  refine ⟨validated_eq_ok_iff.trans isValid_iff_rules, fun r hr => ?_, fun r d => findings_of_repaired, fun d h => ?_⟩
  · rw [validated_eq_error hr, violations_eq]
    rfl
  · have hviolations := violations_congr h
    refine ⟨?_, hviolations⟩
    rw [validated_eq_ok_iff, validated_eq_ok_iff, isValid_iff_violations, isValid_iff_violations, hviolations]

/-- Four entries are wrong, the blank region is repaired, and useless filters make no difference. -/
theorem validated_by_rules_of_blank_region :
    let c : Config := { Config.standard "now" with
      region := "\u2003\t", agent := { address := "agent:8500" }, polling := { interval := "0s" }
      policy := { Policy.standard with port := 0 } }
    let d : Config := { c with region := "eu-west-1" }
    let e : Config := { c with
      agent := { c.agent with datacenter? := some "" }, polling := { c.polling with filters := ["("], tags := ["\x7b\x7b"] } }
    ¬ Rule.port.Holds c ∧
      c.validated = .error (.invalid [.emptyRegion, .addressScheme "agent:8500", .interval "0s", .zeroPort]) ∧
      Rule.region.Holds d ∧ (∀ s : Rule, s ≠ .region → s.Agrees c d) ∧
      d.violations.map (·.finding.path) = ["consul.address", "sync.interval", "registration.port"] ∧
      (∀ r : Rule, r.Agrees c e) ∧ c.violations = e.violations := by
  intro c d e
  obtain ⟨_, herror, hrepair, hother⟩ := validated_by_rules c
  have hport : ¬ Rule.port.Holds c := by decide +kernel
  have hbroken : (Rule.all.filter fun s => ¬ s.Holds c).map (·.violation c) =
      [.emptyRegion, .addressScheme "agent:8500", .interval "0s", .zeroPort] := by decide +kernel
  have hregion : Rule.region.Holds d := by decide +kernel
  have hagrees : ∀ s : Rule, s ≠ .region → s.Agrees c d := by
    intro s hs
    cases s <;> first | rfl | exact absurd rfl hs
  have hunread : ∀ r : Rule, r.Agrees c e := by
    intro r
    cases r <;> rfl
  have hpaths := congrArg (List.map Finding.path) (hrepair .region d hregion hagrees)
  refine ⟨hport, by rw [herror .port hport, hbroken], hregion, hagrees, ?_, hunread, (hother e hunread).2⟩
  rw [List.map_map] at hpaths
  exact hpaths.trans (by decide +kernel)

end Config
end GatewayRegistrar
