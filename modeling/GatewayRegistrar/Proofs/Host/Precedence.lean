import GatewayRegistrar.Proofs.Host.Initialized

/-!
# Options over files

Options count more than a file, but what comes from a file is checked under the environment before the options are in
place, and what comes from no file is not. So there are two ways to go wrong below the options: a file whose fault an
option would repair is rejected, and so is the standard configuration once it has been written to a file, under an
environment whose fault an option would repair. `options_over_file_iff` says that there are no others.
-/

namespace GatewayRegistrar

open CommandLine

variable {σ : Type}

namespace Config

/-- The configuration without its times. -/
def untimed (c : Config) : Config :=
  { c with metadata := { c.metadata with createdAt := "", lastModified := "" } }

/-- No rule asks for times. -/
@[simp] theorem violations_untimed (c : Config) : c.untimed.violations = c.violations := rfl

@[simp] theorem isValid_untimed (c : Config) : c.untimed.isValid = c.isValid := rfl

theorem untimed_override (env : Environment) (c : Config) : (c.override env).untimed = c.untimed.override env := by
  simp only [override_eq]
  rfl

theorem untimed_applyTo (o : Options) (c : Config) : (o.applyTo c).untimed = o.applyTo c.untimed := rfl

theorem untimed_standard (now now' : String) : (standard now).untimed = (standard now').untimed := rfl

/-- Configurations that differ in their times are accepted alike, and rejected alike. -/
theorem map_untimed_validated {c d : Config} (h : c.untimed = d.untimed) :
    (c.validated.mapError Failure.load).map untimed = (d.validated.mapError Failure.load).map untimed := by
  have hvalid : c.isValid = d.isValid := by rw [← isValid_untimed, h, isValid_untimed]
  have hviolations : c.violations = d.violations := by rw [← violations_untimed, h, violations_untimed]
  unfold validated
  rw [hvalid, hviolations]
  split
  · exact congrArg Except.ok h
  · rfl

end Config

namespace Action

variable {host : Host σ} {path? : Option String} {path : String} {w w' : World σ} {base : Config}

/-- The file that was written holds the standard configuration. -/
theorem isBase_of_initConfig {force : Bool} {now : String} (hpath : host.configPath? path? = some path)
    (hnew : w.files.has path = false)
    (h : (initConfig { host with now } path? force).runOn w = (.ok (), w')) :
    w'.files.has path = true ∧ IsBase host w'.files path (.standard now) := by
  have hpath' : Host.configPath? { host with now } path? = some path := hpath
  obtain ⟨hends, _⟩ := initializes_initConfig { host with now } force w hpath'
  obtain ⟨hcode, hfiles, _⟩ := finish_eq_of_runOn h
  rw [hfiles] at hends
  have hhas := hends.has_of_code hcode
  have hread := hends.readText (by simp [hnew]) hcode
  exact ⟨hhas, .stored hhas hread (Config.ofDocument_toDocument _ (Config.isNormal_standard now) (.refl _))⟩

/-- **When options override a file completely.** Loading succeeds exactly for what is valid with the options, unless
what lies below them comes from a file and is only made valid by them. And with the file that is written where there
was none the outcome is what it was without, times aside, exactly when what lies below the options is valid, or the
options leave the same rules violated. -/
theorem options_over_file_iff (o : Options) (hpath : host.configPath? path? = some path)
    (hbase : IsBase host w.files path base) {below all : Config} (hbelow : base.override host.environment = below)
    (hall : o.applyTo below = all) :
    (((∃ c, ((loadConfig host path? o).runOn w).1 = .ok c) ↔ all.isValid = true) ↔
      w.files.has path = false ∨ below.isValid = true ∨ all.isValid = false) ∧
    ∀ now force w', w.files.has path = false → (initConfig { host with now } path? force).runOn w = (.ok (), w') →
      (((loadConfig host path? o).runOn w').1.map Config.untimed =
          ((loadConfig host path? o).runOn w).1.map Config.untimed ↔
        below.isValid = true ∨ all.isValid = false ∧ below.violations = all.violations) := by
  have houtcome := loadConfig_of_isBase hpath hbase o
  rw [hbelow, hall] at houtcome
  refine ⟨?_, fun now force w' hnew hinit => ?_⟩
  · have hok : (∃ c, ((loadConfig host path? o).runOn w).1 = .ok c) ↔
        (w.files.has path = false ∨ below.isValid = true) ∧ all.isValid = true := by
      rw [houtcome]
      cases w.files.has path <;> cases below.isValid <;> simp [mapError_validated_eq_ok_iff]
    rw [hok]
    cases w.files.has path <;> cases below.isValid <;> cases all.isValid <;> simp
  · obtain ⟨hhas, hbase'⟩ := isBase_of_initConfig hpath hnew hinit
    have hstandard : base = .standard host.now := by
      cases hbase with
      | stored hfile => simp [hnew] at hfile
      | standard => rfl
    -- the file holds the configuration that counts without a file, save for its times
    have hbelow' : ((Config.standard now).override host.environment).untimed = below.untimed := by
      simp only [← hbelow, Config.untimed_override, hstandard, Config.untimed_standard now host.now]
    have hall' : (o.applyTo ((Config.standard now).override host.environment)).untimed = all.untimed := by
      simp only [← hall, Config.untimed_applyTo, hbelow']
    have hvalid : ((Config.standard now).override host.environment).isValid = below.isValid := by
      rw [← Config.isValid_untimed, hbelow', Config.isValid_untimed]
    have hviolations : ((Config.standard now).override host.environment).violations = below.violations := by
      rw [← Config.violations_untimed, hbelow', Config.violations_untimed]
    rw [loadConfig_of_isBase hpath hbase' o, houtcome, hhas, hnew, hvalid, hviolations]
    cases hfirst : below.isValid with
    | true => simpa using Config.map_untimed_validated hall'
    | false =>
      simp only [and_self, ↓reduceIte, Bool.false_eq_true, false_and, Config.validated, false_or]
      cases hlast : all.isValid with
      | true => simp [Except.map, Except.mapError]
      | false => simp [Except.map, Except.mapError]

/-- An interval of a file that the environment repairs, so that the options are looked at. -/
theorem repaired_interval_is_accepted :
    (Host.offline [("GATEWAY_SYNC_SYNC__INTERVAL", "2m")]).configPath? (some "/etc/registrar.toml") =
      some "/etc/registrar.toml" ∧
    IsBase (Host.offline [("GATEWAY_SYNC_SYNC__INTERVAL", "2m")]) World.hasty.files "/etc/registrar.toml"
      Config.hasty ∧
    ∃ c, ((loadConfig (Host.offline [("GATEWAY_SYNC_SYNC__INTERVAL", "2m")]) (some "/etc/registrar.toml")
      { sleep? := some 30 }).runOn .hasty).1 = .ok c := by
  have hpath : (Host.offline [("GATEWAY_SYNC_SYNC__INTERVAL", "2m")]).configPath? (some "/etc/registrar.toml") =
      some "/etc/registrar.toml" := rfl
  have hbase := isBase_hasty [("GATEWAY_SYNC_SYNC__INTERVAL", "2m")]
  have hvalid : (Config.hasty.override [("GATEWAY_SYNC_SYNC__INTERVAL", "2m")]).isValid = true := by decide +kernel
  obtain ⟨hclaim, _⟩ := options_over_file_iff { sleep? := some 30 } hpath hbase rfl rfl
  exact ⟨hpath, hbase, (hclaim.2 (.inr (.inl hvalid))).2 (by decide +kernel)⟩

/-- An interval of a file that an option replaces makes loading fail all the same. -/
theorem replaced_interval_is_rejected :
    (Host.offline []).configPath? (some "/etc/registrar.toml") = some "/etc/registrar.toml" ∧
    IsBase (Host.offline []) World.hasty.files "/etc/registrar.toml" Config.hasty ∧
    (Options.applyTo { sleep? := some 30 } (Config.hasty.override [])).isValid = true ∧
    ((loadConfig (Host.offline []) (some "/etc/registrar.toml") { sleep? := some 30 }).runOn .hasty).1 =
      .error (.load (.invalid [.interval "soon"])) := by
  have hbase := isBase_hasty []
  have hhas : World.hasty.files.has "/etc/registrar.toml" = true := rfl
  have hbelow : (Config.hasty.override []).isValid = false := by decide +kernel
  have hviolations : (Config.hasty.override []).violations = [.interval "soon"] := by decide +kernel
  refine ⟨rfl, hbase, by decide +kernel, ?_⟩
  rw [loadConfig_of_isBase rfl hbase, if_pos ⟨hhas, hbelow⟩]
  exact congrArg (fun vs => Except.error (Failure.load (.invalid vs))) hviolations

end Action
end GatewayRegistrar
