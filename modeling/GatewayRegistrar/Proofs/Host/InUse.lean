import GatewayRegistrar.Proofs.Config.Layers
import GatewayRegistrar.Proofs.Config.Validity
import GatewayRegistrar.Proofs.Host.Loading

/-!
# Configurations in use

Whatever configuration a command goes by, each setting in it is that of the highest layer, and it is valid; so a watch
always has a pause, no resource lacks a region, and every registration has a port (`config_in_use`).
-/

namespace GatewayRegistrar

open CommandLine Layer

namespace Action

variable {σ : Type}

/-! ## Failures -/

theorem mapError_load_ne_interval {α : Type} {x : Except LoadFault α} {text : String} :
    x.mapError Failure.load ≠ .error (.interval text) := by
  cases x <;> simp [Except.mapError]

/-- Loading a configuration does not fail for its interval alone. -/
theorem loadConfig_ne_interval (host : Host σ) (path? : Option String) (o : Options) (w : World σ) (text : String) :
    ((loadConfig host path? o).runOn w).1 ≠ .error (.interval text) := by
  rw [loadConfig_outcome]
  cases host.configPath? path? with
  | none => simp
  | some path =>
    show (belowOptions host w.files path).bind (fun c => (o.applyTo c).validated.mapError Failure.load) ≠ _
    cases hbelow : belowOptions host w.files path with
    | ok c => exact mapError_load_ne_interval
    | error f =>
      rintro ⟨⟩
      unfold belowOptions ofFile at hbelow
      split at hbelow
      · split at hbelow
        · exact mapError_load_ne_interval hbelow
        · cases hbelow
      · cases hbelow

/-- Where there is a configuration, there is a pause. -/
theorem prepareWatch_ne_interval (host : Host σ) (path? : Option String) (o : Options) (w : World σ) (text : String) :
    ((prepareWatch host path? o).runOn w).1 ≠ .error (.interval text) := by
  simp only [prepareWatch, runOn_bind]
  rcases hload : (loadConfig host path? o).runOn w with ⟨f | c, w'⟩
  · have hne := loadConfig_ne_interval host path? o w text
    rw [hload] at hne
    rintro ⟨⟩
    exact hne rfl
  · have hvalid : c.isValid = true := by
      obtain ⟨_, _, _, _, _, hvalid, rfl⟩ := loadConfig_eq_ok_iff.1 (congrArg Prod.fst hload)
      exact hvalid
    obtain ⟨i, hpause, _⟩ := Config.exists_pause_of_isValid hvalid
    simp only [hpause, runOn_bind, runOn_tell, runOn_pure]
    rintro ⟨⟩

/-- A watch fails only where it cannot be prepared. -/
theorem watch_ne_interval (host : Host σ) (path? : Option String) (o : Options) (w : World σ) (text : String) :
    ((watch host path? o).runOn w).1 ≠ .error (.interval text) := by
  have hne := prepareWatch_ne_interval host path? o w text
  rw [watch, runOn_bind]
  rcases hprepare : (prepareWatch host path? o).runOn w with ⟨f | ⟨c, i⟩, w'⟩
  · rw [hprepare] at hne
    rintro ⟨⟩
    exact hne rfl
  · rintro ⟨⟩

/-! ## The configuration of a command -/

/-- **The configuration of a command** lies in layers over that of the file, or over the standard one where there is no
file; what the environment gives as address has a scheme. It is valid, time passes between its cycles, no resource is
skipped for its region, and every registration has a port. So a watch never fails for want of an interval. -/
theorem config_in_use (host : Host σ) (path? : Option String) (o : Options) (w : World σ) :
    (∀ c, ((loadConfig host path? o).runOn w).1 = .ok c →
      (∃ path base, host.configPath? path? = some path ∧ IsBase host w.files path base ∧
        Config.Stacks o host.environment base c) ∧
      (∀ address, (ofEnvironment host.environment).address? = some address → hasScheme address = true) ∧
      c.isValid = true ∧
      (∃ i, c.polling.pause? = some i ∧ 0 < i.milliseconds) ∧
      ∀ rs, .error .noRegion ∉ c.settings.identities rs ∧
        ∀ room p, c.settings.plan room rs = some p → ∀ r ∈ p.registrations, r.port ≠ 0) ∧
    ∀ text, ((prepareWatch host path? o).runOn w).1 ≠ .error (.interval text) ∧
      ((watch host path? o).runOn w).1 ≠ .error (.interval text) := by
  refine ⟨fun c h => ?_, fun text =>
    ⟨prepareWatch_ne_interval host path? o w text, watch_ne_interval host path? o w text⟩⟩
  obtain ⟨path, base, hpath, hbase, _, hvalid, rfl⟩ := loadConfig_eq_ok_iff.1 h
  exact ⟨⟨path, base, hpath, hbase, Config.stacks_applyTo_override o host.environment base⟩,
    fun address => hasScheme_of_ofEnvironment, hvalid, Config.exists_pause_of_isValid hvalid,
    fun rs => ⟨Config.noRegion_notMem_identities hvalid rs, fun _ _ => Config.port_ne_zero_of_isValid hvalid⟩⟩

/-- A port that is no number sets nothing, the environment repairs the interval of the file, and the options come before
both. -/
theorem hasty_config_in_use :
    let host := Host.offline [("CONSUL_HTTP_ADDR", "agent:8500"), ("GATEWAY_SYNC_CONSUL__ADDRESS", "catalog:8500"),
      ("GATEWAY_SYNC_REGISTRATION__PORT", "none"), ("GATEWAY_SYNC_SYNC__INTERVAL", "2m")]
    let c : Config := { Config.hasty with
      agent := { address := "http://catalog:8500" }, polling := { interval := "30s", tags := ["gateway"] } }
    ((loadConfig host (some "/etc/registrar.toml") { sleep? := some 30, tags := ["gateway"] }).runOn .hasty).1 = .ok c ∧
      c.isValid = true ∧ ∀ rs room p, c.settings.plan room rs = some p → ∀ r ∈ p.registrations, r.port ≠ 0 := by
  intro host c
  have hload : ((loadConfig host (some "/etc/registrar.toml") { sleep? := some 30, tags := ["gateway"] }).runOn
      .hasty).1 = .ok c :=
    loadConfig_eq_ok_iff.2 ⟨_, Config.hasty, rfl, isBase_hasty _, fun _ => by decide +kernel, by decide +kernel,
      by decide +kernel⟩
  obtain ⟨_, _, hvalid, _, hplan⟩ := (config_in_use host _ _ .hasty).1 c hload
  exact ⟨hload, hvalid, fun rs => (hplan rs).2⟩

end Action
end GatewayRegistrar
