import GatewayRegistrar.Host.Execution
import GatewayRegistrar.Proofs.Value.Decoding

/-!
# How a configuration is loaded

An action on a world gives a result or a failure, and the world behind it (`Action.runOn`). What the parts of an action
do is stated once for each, and from that what loading a configuration comes to: `readConfig_outcome` for a file,
`loadConfig_outcome` for a command.
-/

namespace GatewayRegistrar

open CommandLine

/-- The path of the configuration that a command goes by. -/
def Host.configPath? {σ : Type} (host : Host σ) (path? : Option String) : Option String :=
  path? <|> host.configHome?.map (joinPath · "gateway-sync/config.toml")

namespace Action

variable {σ α β : Type}

/-- What an action on a world gives, and the world behind it. -/
def runOn (a : Action σ α) (w : World σ) : Except Failure α × World σ := StateT.run (ExceptT.run a) w

/-! ## Parts of actions -/

@[simp] theorem runOn_pure (x : α) (w : World σ) : (pure x : Action σ α).runOn w = (.ok x, w) := rfl

@[simp] theorem runOn_throw (f : Failure) (w : World σ) : (throw f : Action σ α).runOn w = (.error f, w) := rfl

theorem runOn_bind (a : Action σ α) (next : α → Action σ β) (w : World σ) :
    (a >>= next).runOn w =
      match a.runOn w with
      | (.ok x, w') => (next x).runOn w'
      | (.error f, w') => (.error f, w') := by
  simp only [runOn, ExceptT.run_bind, StateT.run_bind]
  rcases StateT.run (ExceptT.run a) w with ⟨_ | _, _⟩ <;> rfl

@[simp] theorem runOn_tell (es : List Event) (w : World σ) :
    (tell es).runOn w = (.ok (), { w with notices := w.notices ++ es.map .told }) := rfl

@[simp] theorem runOn_printLine (s : String) (w : World σ) :
    (printLine s).runOn w = (.ok (), { w with notices := w.notices ++ [.printed (s ++ "\n")] }) := rfl

@[simp] theorem runOn_orFail {ε : Type} (failure : ε → Failure) (x : Except ε α) (w : World σ) :
    (orFail failure x).runOn w = (x.mapError failure, w) := by
  cases x <;> rfl

@[simp] theorem runOn_fileExists (path : String) (w : World σ) :
    (fileExists path).runOn w = (.ok (w.files.has path), w) := rfl

@[simp] theorem runOn_readFile (action : FileAction) (path : String) (w : World σ) :
    (readFile action path).runOn w = ((w.files.readText path).mapError (.file action path), w) := by
  rw [← runOn_orFail]
  rfl

theorem runOn_changeFiles (action : FileAction) (path : String) (change : Files → Except FileFault Files)
    (w : World σ) :
    (changeFiles action path change).runOn w =
      match change w.files with
      | .ok fs => (.ok (), { w with files := fs })
      | .error fault => (.error (.file action path fault), w) := by
  have hget : (changeFiles action path change : Action σ Unit) = (do
      let fs ← (do orFail (.file action path) (change (← get).files) : Action σ Files)
      modify fun w => { w with files := fs }) := rfl
  have hchange : (do orFail (.file action path) (change (← get).files) : Action σ Files).runOn w =
      ((change w.files).mapError (.file action path), w) := by
    rw [← runOn_orFail]
    rfl
  rw [hget, runOn_bind, hchange]
  cases change w.files <;> rfl

theorem runOn_makeDirectories (action : FileAction) (path : String) (w : World σ) :
    (makeDirectories action path).runOn w =
      (match (w.files.makeDirectories path).2 with
        | some fault => .error (Failure.file action path fault)
        | none => .ok (), { w with files := (w.files.makeDirectories path).1 }) := by
  have hparts : (makeDirectories action path : Action σ Unit).runOn w =
      (match (w.files.makeDirectories path).2 with
        | some fault => (throw (Failure.file action path fault) : Action σ Unit)
        | none => pure ()).runOn { w with files := (w.files.makeDirectories path).1 } := rfl
  rw [hparts]
  cases (w.files.makeDirectories path).2 <;> rfl

/-- The exit code of a command with this outcome. -/
def exitCodeOf : Except Failure Unit → UInt8
  | .ok _ => 0
  | .error _ => 1

/-- The end of a command that does not break off, told by what it gives and by the world behind it. -/
theorem finish_eq_of_runOn {a : Action σ Unit} {w w' : World σ} {outcome : Except Failure Unit}
    (h : a.runOn w = (outcome, w')) :
    (a.toDone.finish w).exitCode = exitCodeOf outcome ∧ (a.toDone.finish w).world.files = w'.files ∧
      (a.toDone.finish w).world.catalog = w'.catalog := by
  have hdone : a.toDone.runOn w = (outcome.map fun _ => .done, w') := by
    rw [toDone, runOn_bind, h]
    cases outcome <;> rfl
  unfold runOn at hdone
  rw [finish, hdone]
  cases outcome <;> exact ⟨rfl, rfl, rfl⟩

/-! ## Configurations -/

theorem runOn_saveConfig (path : String) (c : Config) (w : World σ) :
    (saveConfig path c).runOn w =
      match w.files.writeText path c.toDocument with
      | .ok fs => (.ok (), { w with files := fs })
      | .error fault => (.error (.file .writeConfig path fault), w) :=
  runOn_changeFiles ..

theorem runOn_checkConfig (c : Config) (w : World σ) :
    (checkConfig c).runOn w =
      (c.validated.mapError .load, { w with
        notices := w.notices ++ (c.uselessFilters.map .filterUseless).map .told }) := by
  simp [checkConfig, runOn_bind]

theorem runOn_overrideConfig (host : Host σ) (c : Config) (w : World σ) :
    (overrideConfig host c).runOn w = (.ok (c.override host.environment), { w with
      notices := w.notices ++ ((overrideFaults host.environment).map fun (name, fault) =>
        Event.overrideRejected name fault).map .told }) := rfl

/-- The configuration of a file, under the environment. -/
def ofFile (host : Host σ) (fs : Files) (path : String) : Except Failure Config :=
  match fs.readText path with
  | .ok document => (Config.load host.now host.environment document).mapError .load
  | .error fault => .error (.file .readConfig path fault)

/-- **What reading the configuration of a file comes to.** -/
theorem readConfig_outcome (host : Host σ) (path : String) (w : World σ) :
    ((readConfig host path).runOn w).1 =
      if w.files.has path then ofFile host w.files path else .error (.configNotFound path) := by
  simp only [readConfig, runOn_bind, runOn_fileExists]
  by_cases hhas : w.files.has path
  · simp only [hhas, Bool.not_true, Bool.false_eq_true, ↓reduceIte, runOn_bind, runOn_readFile, runOn_orFail]
    unfold ofFile
    cases w.files.readText path with
    | error fault => rfl
    | ok document =>
      simp only [Except.mapError, Config.load]
      cases Config.ofDocument host.now document with
      | error fault => rfl
      | ok c => simp only [runOn_overrideConfig, runOn_checkConfig]; rfl
  · simp only [hhas, Bool.not_false, ↓reduceIte, runOn_bind, runOn_throw]
    rfl

theorem runOn_configPath (host : Host σ) (path? : Option String) (w : World σ) :
    (configPath host path?).runOn w = ((host.configPath? path?).elim (.error .noConfigHome) .ok, w) := by
  unfold configPath Host.configPath?
  cases path? with
  | some path => rfl
  | none =>
    cases host.configHome? with
    | some home => rfl
    | none => rfl

/-- The configuration below the options: that of the file, or the standard one where there is no file, under the
environment. -/
def belowOptions (host : Host σ) (fs : Files) (path : String) : Except Failure Config :=
  if fs.has path then ofFile host fs path else .ok ((Config.standard host.now).override host.environment)

/-- **What loading the configuration of a command comes to.** -/
theorem loadConfig_outcome (host : Host σ) (path? : Option String) (o : Options) (w : World σ) :
    ((loadConfig host path? o).runOn w).1 =
      match host.configPath? path? with
      | none => .error .noConfigHome
      | some path => (belowOptions host w.files path).bind fun c => (o.applyTo c).validated.mapError .load := by
  simp only [loadConfig, runOn_bind, runOn_configPath]
  cases host.configPath? path? with
  | none => rfl
  | some path =>
    simp only [Option.elim_some, runOn_fileExists, belowOptions]
    by_cases hhas : w.files.has path
    · have hread := readConfig_outcome host path w
      simp only [hhas, ↓reduceIte] at hread ⊢
      rw [← hread, runOn_bind]
      cases ((readConfig host path).runOn w) with
      | mk result w' =>
        cases result with
        | error f => rfl
        | ok c => simp only [runOn_checkConfig]; rfl
    · simp only [hhas, Bool.false_eq_true, ↓reduceIte, runOn_bind, runOn_tell, runOn_overrideConfig, runOn_checkConfig]
      rfl

/-! ## The configuration at the bottom -/

/-- The configuration that the environment and the options lie over: that of the file, or the standard one where there
is no file. -/
inductive IsBase (host : Host σ) (fs : Files) (path : String) : Config → Prop
  | stored {document : String} {base : Config} : fs.has path = true → fs.readText path = .ok document →
      Config.ofDocument host.now document = .ok base → IsBase host fs path base
  | standard : fs.has path = false → IsBase host fs path (.standard host.now)

variable {host : Host σ} {path? : Option String} {path : String} {w : World σ} {base c : Config}

theorem belowOptions_of_isBase {fs : Files} (h : IsBase host fs path base) :
    belowOptions host fs path =
      if fs.has path then (base.override host.environment).validated.mapError .load
      else .ok (base.override host.environment) := by
  unfold belowOptions ofFile
  cases h with
  | stored hhas hread hdocument =>
    simp only [hhas, ↓reduceIte, hread, Config.load, hdocument]
    rfl
  | standard hnew => simp only [hnew, Bool.false_eq_true, ↓reduceIte]

/-- **What lies below the options is checked where it comes from a file**, before the options are in place. -/
theorem loadConfig_of_isBase (hpath : host.configPath? path? = some path) (h : IsBase host w.files path base)
    (o : Options) :
    ((loadConfig host path? o).runOn w).1 =
      if w.files.has path ∧ (base.override host.environment).isValid = false then
        .error (.load (.invalid (base.override host.environment).violations))
      else (o.applyTo (base.override host.environment)).validated.mapError .load := by
  simp only [loadConfig_outcome, hpath, belowOptions_of_isBase h, Config.validated]
  cases w.files.has path <;> cases (base.override host.environment).isValid <;> rfl

theorem exists_isBase_of_belowOptions {fs : Files} (h : belowOptions host fs path = .ok c) :
    ∃ base, IsBase host fs path base := by
  unfold belowOptions ofFile at h
  cases hhas : fs.has path with
  | false => exact ⟨_, .standard hhas⟩
  | true =>
    rw [if_pos hhas] at h
    split at h
    · rename_i document hread
      cases hdocument : Config.ofDocument host.now document with
      | error fault => simp [Config.load, hdocument, Except.mapError, bind, Except.bind] at h
      | ok base => exact ⟨base, .stored hhas hread hdocument⟩
    · cases h

theorem mapError_validated_eq_ok_iff {d : Config} :
    c.validated.mapError Failure.load = .ok d ↔ c.isValid = true ∧ d = c := by
  unfold Config.validated
  split
  · rename_i hvalid
    exact ⟨fun h => ⟨hvalid, (Except.ok.inj h).symm⟩, fun h => by rw [h.2]; rfl⟩
  · rename_i hvalid
    exact ⟨fun h => (by cases h), fun h => absurd h.1 hvalid⟩

/-- **When loading a configuration succeeds**, and with what. -/
theorem loadConfig_eq_ok_iff {o : Options} :
    ((loadConfig host path? o).runOn w).1 = .ok c ↔
      ∃ path base, host.configPath? path? = some path ∧ IsBase host w.files path base ∧
        (w.files.has path = true → (base.override host.environment).isValid = true) ∧
        (o.applyTo (base.override host.environment)).isValid = true ∧
        c = o.applyTo (base.override host.environment) := by
  constructor
  · intro h
    obtain ⟨path, base, hpath, hbase⟩ : ∃ path base, host.configPath? path? = some path ∧
        IsBase host w.files path base := by
      rw [loadConfig_outcome] at h
      cases hpath : host.configPath? path? with
      | none => simp [hpath] at h
      | some path =>
        rw [hpath] at h
        obtain ⟨below, hbelow, _⟩ := exists_ok_of_bind h
        obtain ⟨base, hbase⟩ := exists_isBase_of_belowOptions hbelow
        exact ⟨path, base, rfl, hbase⟩
    refine ⟨path, base, hpath, hbase, ?_⟩
    rw [loadConfig_of_isBase hpath hbase] at h
    split at h
    · cases h
    · rename_i hchecked
      rw [mapError_validated_eq_ok_iff] at h
      exact ⟨fun hhas => by simpa [hhas] using hchecked, h⟩
  · rintro ⟨path, base, hpath, hbase, hbelow, hvalid, rfl⟩
    have hchecked : ¬ (w.files.has path = true ∧ (base.override host.environment).isValid = false) :=
      fun h => by simp [hbelow h.1] at h
    rw [loadConfig_of_isBase hpath hbase, if_neg hchecked, mapError_validated_eq_ok_iff]
    exact ⟨hvalid, rfl⟩

end Action

/-! ## A file with an interval that cannot be read -/

/-- A host without a network, with some variables in its environment. -/
def Host.offline (env : Environment) : Host Unit where
  now := "now"
  environment := env
  configHome? := none
  list _ _ := .ok []
  sink agent := .unreachable agent.address
  pauses := []
  room := 0
  tagOrders _ := .asListed

/-- A world with one file in a directory. -/
def World.holding (directory name text : String) : World Unit where
  files := { nodes := [([directory], .directory), ([directory, name], .file (some text))] }
  catalog := ()

/-- A document in which the interval cannot be read. -/
def Config.hastyDocument : String :=
  "[_meta]\nschema_version = \"1.0.0\"\n\n[aws]\nregion = \"us-east-1\"\n\n"
    ++ "[consul]\naddress = \"http://127.0.0.1:8500\"\n\n[sync]\ninterval = \"soon\"\n"

/-- The configuration in that document. -/
def Config.hasty : Config :=
  { Config.standard "now" with region := "us-east-1", polling := { interval := "soon" } }

/-- A world with that document at `/etc/registrar.toml`. -/
def World.hasty : World Unit := .holding "etc" "registrar.toml" Config.hastyDocument

theorem Config.ofDocument_hasty : Config.ofDocument "now" Config.hastyDocument = .ok Config.hasty := by
  have hsome : (Config.ofDocument "now" Config.hastyDocument).toOption = some Config.hasty := by decide +kernel
  generalize Config.ofDocument "now" Config.hastyDocument = x at hsome
  cases x with
  | error fault => cases hsome
  | ok c => exact congrArg Except.ok (Option.some.inj hsome)

theorem Action.isBase_hasty (env : Environment) :
    Action.IsBase (Host.offline env) World.hasty.files "/etc/registrar.toml" Config.hasty :=
  .stored rfl rfl Config.ofDocument_hasty

end GatewayRegistrar
