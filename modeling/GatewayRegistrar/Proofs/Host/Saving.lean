import GatewayRegistrar.Proofs.Config.Coding
import GatewayRegistrar.Proofs.Config.Layers
import GatewayRegistrar.Proofs.Host.Files
import GatewayRegistrar.Proofs.Host.Loading

/-!
# Configurations that have been saved

A path to which a configuration was saved leads to its document, and the document of a configuration is read as that
configuration. So what is read at the path is the saved configuration under the environment, if it is valid, and
otherwise its violations (`saved_config_is_read`).
-/

namespace GatewayRegistrar

variable {σ : Type} {c d : Config}

namespace Config

/-- Settings from the environment leave the maps as they are. -/
theorem IsNormal.override (hc : c.IsNormal) (env : Environment) : (c.override env).IsNormal := by
  rw [override_eq]
  exact ⟨hc.nodeMeta, hc.serviceMeta⟩

/-- The violations are named where the configuration is not valid. -/
theorem validated_eq (c : Config) : c.validated = if c.isValid then .ok c else .error (.invalid c.violations) := rfl

end Config

namespace Action

theorem runOn_saveConfig_of_target {w : World σ} {path : String} {place : Place}
    (h : w.files.target path = .ok place) (d : Config) :
    ∃ fs, w.files.writeText path d.toDocument = .ok fs ∧
      (saveConfig path d).runOn w = (.ok (), { w with files := fs }) := by
  have hwrite : w.files.writeText path d.toDocument = .ok (w.files.put place (.file (some d.toDocument))) :=
    Files.writeText_eq_ok_iff.2 ⟨place, h, rfl⟩
  exact ⟨_, hwrite, by rw [runOn_saveConfig, hwrite]⟩

/-- What is read where a path leads to the document of a configuration. -/
theorem readConfig_of_readText (host : Host σ) {w : World σ} {path : String} (hc : c.IsNormal) (hd : d.Arranges c)
    (h : w.files.readText path = .ok d.toDocument) :
    ((readConfig host path).runOn w).1 = (c.override host.environment).validated.mapError .load := by
  simp only [readConfig_outcome, Files.has_of_readText h, ↓reduceIte, ofFile, h, Config.load,
    Config.ofDocument_toDocument host.now hc hd]
  rfl

/-- What is read where a configuration was written. -/
theorem readConfig_of_writeText (host : Host σ) {fs : Files} {w : World σ} {path : String} (hc : c.IsNormal)
    (hd : d.Arranges c) (h : fs.writeText path d.toDocument = .ok w.files) :
    ((readConfig host path).runOn w).1 = (c.override host.environment).validated.mapError .load :=
  readConfig_of_readText host hc hd (Files.readText_of_writeText h).2

/-- What is read where a configuration was saved. -/
theorem readConfig_of_saveConfig (host : Host σ) {w : World σ} {path : String} {place : Place} (hc : c.IsNormal)
    (hd : d.Arranges c) (hpath : w.files.target path = .ok place) :
    ∃ w', (saveConfig path d).runOn w = (.ok (), w') ∧
      ((readConfig host path).runOn w').1 = (c.override host.environment).validated.mapError .load := by
  obtain ⟨fs, hwrite, hsave⟩ := runOn_saveConfig_of_target hpath d
  exact ⟨_, hsave, readConfig_of_writeText host hc hd hwrite⟩

/-- **Saving loses nothing.** At a path to which a text can be written, every configuration can be saved, whatever the
order of its maps. What is read there is that configuration under the environment if this is valid, and otherwise
fails with its violations; where the environment has no setting, it is the configuration itself. Saving what was read
and reading it again changes nothing. -/
theorem saved_config_is_read (host : Host σ) (w : World σ) (path : String) {place : Place} (hc : c.IsNormal)
    (hd : d.Arranges c) (hpath : w.files.target path = .ok place) :
    ∃ w', (saveConfig path d).runOn w = (.ok (), w') ∧
      ((readConfig host path).runOn w').1 =
        (if (c.override host.environment).isValid then .ok (c.override host.environment)
        else .error (.load (.invalid (c.override host.environment).violations))) ∧
      (Layer.ofEnvironment host.environment = {} → c.isValid → ((readConfig host path).runOn w').1 = .ok c) ∧
      ∀ c₁, ((readConfig host path).runOn w').1 = .ok c₁ → ∀ d₁ : Config, d₁.Arranges c₁ →
        ∀ (host₁ : Host σ) (w₁ : World σ) (place₁ : Place), host₁.environment = host.environment →
          w₁.files.target path = .ok place₁ →
            ∃ w₂, (saveConfig path d₁).runOn w₁ = (.ok (), w₂) ∧ ((readConfig host₁ path).runOn w₂).1 = .ok c₁ := by
  obtain ⟨w', hsave, hread⟩ := readConfig_of_saveConfig host hc hd hpath
  rw [Config.validated_eq] at hread
  refine ⟨w', hsave, ?_, ?_, ?_⟩
  · rw [hread]
    split <;> rfl
  · intro hnone hvalid
    have hsame : c.override host.environment = c := by rw [Config.override_eq, hnone, Layer.empty_upon]
    rw [hread, hsame, if_pos hvalid]
    rfl
  · intro c₁ hc₁ d₁ hd₁ host₁ w₁ place₁ henv hpath₁
    -- what was read is the saved configuration under the environment, and is valid
    obtain ⟨rfl, hvalid⟩ : c.override host.environment = c₁ ∧ (c.override host.environment).isValid = true := by
      rw [hread] at hc₁
      split at hc₁
      · exact ⟨Except.ok.inj hc₁, ‹_›⟩
      · cases hc₁
    obtain ⟨w₂, hsave₂, hread₂⟩ := readConfig_of_saveConfig host₁ (hc.override host.environment) hd₁ hpath₁
    refine ⟨w₂, hsave₂, ?_⟩
    rw [hread₂, henv, Config.override_override, Config.validated_eq, if_pos hvalid]
    rfl

/-- A configuration whose texts need quotation and whose maps have been written in another order. -/
theorem quoted_config_is_read :
    let c : Config := { Config.standard "then" with
      polling := { interval := "5m", filters := ["Name=tag:a\"b,Values=^\\d\n"], tags := ["\"\"\"\x27", "\x7f\r"] }
      policy := { port := 8443, nodeMeta := [("a b", "1"), ("c", "\\")], serviceMeta := [] } }
    let d : Config := { c with policy := { c.policy with nodeMeta := [("c", "\\"), ("a b", "1")] } }
    let host := Host.offline [("GATEWAY_SYNC_AWS__REGION", "eu-west-1")]
    c.IsNormal ∧ d.Arranges c ∧
      (World.holding "etc" "old" "").files.target "/etc/registrar.toml" = .ok ["etc", "registrar.toml"] ∧
      ∃ w', (saveConfig "/etc/registrar.toml" d).runOn (World.holding "etc" "old" "") = (.ok (), w') ∧
        ((readConfig host "/etc/registrar.toml").runOn w').1 = .ok { c with region := "eu-west-1" } := by
  intro c d host
  have hc : c.IsNormal := ⟨by simp only [Ascending, c]; decide, List.Pairwise.nil⟩
  have hd : d.Arranges c := ⟨rfl, rfl, rfl, rfl, rfl, .swap .., .refl _⟩
  have hpath : (World.holding "etc" "old" "").files.target "/etc/registrar.toml" = .ok ["etc", "registrar.toml"] := by
    rfl
  obtain ⟨w', hsave, hread, _⟩ := saved_config_is_read host _ _ hc hd hpath
  have hregion : c.override host.environment = { c with region := "eu-west-1" } := by decide +kernel
  have hvalid : (c.override host.environment).isValid = true := by decide +kernel
  rw [if_pos hvalid, hregion] at hread
  exact ⟨hc, hd, hpath, w', hsave, hread⟩

end Action
end GatewayRegistrar
