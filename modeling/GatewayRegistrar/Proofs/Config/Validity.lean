import GatewayRegistrar.Proofs.Cycle.Fate
import GatewayRegistrar.Proofs.Service.Identity

/-!
# Valid configurations

A configuration is valid when all its rules hold (`isValid_iff`). Then time passes between two cycles
(`exists_pause_of_isValid`), no resource is skipped for its region (`noRegion_notMem_identities`), and every
registration has a port (`port_ne_zero_of_isValid`).
-/

namespace GatewayRegistrar
namespace Config

variable {c : Config}

theorem check_eq_nil_iff {holds : Bool} {v : Violation} : check holds v = [] ↔ holds = true := by
  cases holds <;> simp [check]

theorem isValid_iff_violations : c.isValid = true ↔ c.violations = [] := by
  rw [isValid, List.isEmpty_iff]

/-- **The rules of a valid configuration.** -/
theorem isValid_iff : c.isValid = true ↔
    c.metadata.schemaVersion = GatewayRegistrar.schemaVersion ∧ (trimmed c.region).isEmpty = false ∧
      hasScheme c.agent.address = true ∧ c.polling.hasPause = true ∧ c.policy.port ≠ 0 := by
  simp only [isValid_iff_violations, violations, List.append_eq_nil_iff, check_eq_nil_iff, beq_iff_eq, bne_iff_ne,
    Bool.not_eq_true', and_assoc, ne_eq]

/-- Time passes between two cycles. -/
theorem exists_pause_of_isValid (h : c.isValid = true) : ∃ i, c.polling.pause? = some i ∧ 0 < i.milliseconds := by
  obtain ⟨_, _, _, hpause, _⟩ := isValid_iff.1 h
  unfold Polling.hasPause at hpause
  cases hread : c.polling.pause? with
  | none => simp [hread] at hpause
  | some i =>
    refine ⟨i, rfl, Nat.pos_of_ne_zero ?_⟩
    simpa [hread, Interval.isZero] using hpause

/-- A region that is not blank is not empty. -/
theorem region_of_isValid (h : c.isValid = true) : c.region.isEmpty = false := by
  obtain ⟨_, hregion, _⟩ := isValid_iff.1 h
  cases hempty : c.region.isEmpty with
  | false => rfl
  | true =>
    rw [String.isEmpty_iff.1 hempty] at hregion
    exact absurd hregion (by decide)

/-- **No resource is skipped for its region.** -/
theorem noRegion_notMem_identities (h : c.isValid = true) (rs : List Resource) :
    .error .noRegion ∉ c.settings.identities rs := by
  intro hmem
  obtain ⟨r, _, hr⟩ := List.mem_map.1 hmem
  have hregion : c.settings.region.isEmpty = false := region_of_isValid h
  rw [Identity.ofResource_eq, hregion, if_neg Bool.false_ne_true] at hr
  split at hr
  · cases hr
  · cases hr
  · split at hr <;> cases hr

/-- **Every registration has a port.** -/
theorem port_ne_zero_of_isValid (h : c.isValid = true) {room : Nat} {rs : List Resource} {p : Plan}
    (hp : c.settings.plan room rs = some p) : ∀ r ∈ p.registrations, r.port ≠ 0 := by
  obtain ⟨_, _, _, _, hport⟩ := isValid_iff.1 h
  intro r hr
  obtain ⟨_, _, hr⟩ := Settings.exists_of_mem_registrations hp hr
  obtain ⟨_, _, rfl⟩ := Option.map_eq_some_iff.1 hr
  exact hport

end Config
end GatewayRegistrar
