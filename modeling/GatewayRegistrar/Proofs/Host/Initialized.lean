import GatewayRegistrar.Proofs.Host.Directories
import GatewayRegistrar.Proofs.Host.Saving

/-!
# Configurations that are initialized

Initializing a configuration ends in one of four ways (`Initializes`): there is something at the path already, the
directories cannot be made, the file cannot be written, or it is written. Whether there is something is asked before the
directories are made. So an existing file is lost without being forced where the path comes to lead to it only by the
directories that are made, which takes a `..` behind a directory that is missing. `init_keeps_files_iff` says that this
is the only way, and that whatever is written is a configuration that loads.
-/

namespace GatewayRegistrar

open CommandLine

variable {σ : Type}

/-- No rule is violated by the standard configuration. -/
theorem Config.isValid_standard (now : String) : (Config.standard now).isValid = true := by
  -- no rule asks for the time
  show (Config.standard "").isValid = true
  decide +kernel

namespace Files

/-- What becomes of the files when a configuration is initialized with a document, and the exit code. -/
inductive Initializes (fs : Files) (path document : String) (force : Bool) : UInt8 → Files → Prop
  | found : fs.has path = true → force = false → Initializes fs path document force 0 fs
  | blocked {made : Files} {fault : FileFault} : (fs.has path = true → force = true) →
      fs.withDirectories path = (made, some fault) → Initializes fs path document force 1 made
  | unwritable {made : Files} {fault : FileFault} : (fs.has path = true → force = true) →
      fs.withDirectories path = (made, none) → made.target path = .error fault →
      Initializes fs path document force 1 made
  | written {made : Files} {place : Place} : (fs.has path = true → force = true) →
      fs.withDirectories path = (made, none) → made.target path = .ok place →
      Initializes fs path document force 0 (made.put place (.file (some document)))

namespace Initializes

variable {fs fs' : Files} {path document : String} {force : Bool} {code : UInt8}

/-- What is at the path stays if it is not forced to go. -/
theorem eq_of_has (h : Initializes fs path document force code fs') (hhas : fs.has path = true)
    (hforce : force = false) : code = 0 ∧ fs' = fs := by
  cases h with
  | found => exact ⟨rfl, rfl⟩
  | blocked hforced => simp [hforced hhas] at hforce
  | unwritable hforced => simp [hforced hhas] at hforce
  | written hforced => simp [hforced hhas] at hforce

/-- **When it comes to no fault**: when something at the path may stay, or when the directories can be made and a file
can stand where the path then leads. -/
theorem code_eq_zero_iff (h : Initializes fs path document force code fs') :
    code = 0 ↔ fs.has path = true ∧ force = false ∨
      ∃ made place, fs.withDirectories path = (made, none) ∧ made.target path = .ok place := by
  have hguard : (fs.has path = true → force = true) → ¬(fs.has path = true ∧ force = false) := by
    rintro hforced ⟨hhas, hforce⟩
    simp [hforced hhas] at hforce
  cases h with
  | found hhas hforce => simp [hhas, hforce]
  | blocked hforced hmade => simp [hguard hforced, hmade]
  | unwritable hforced hmade htarget => simp [hguard hforced, hmade, htarget]
  | written _ hmade htarget => simp [hmade, htarget]

/-- Where it comes to a fault, there are at most more directories. -/
theorem moreDirectories (h : Initializes fs path document force code fs') (hcode : code ≠ 0) :
    MoreDirectories fs fs' := by
  have hmore := moreDirectories_withDirectories fs path
  cases h with
  | found => exact absurd rfl hcode
  | blocked _ hmade => rwa [hmade] at hmore
  | unwritable _ hmade => rwa [hmade] at hmore
  | written => exact absurd rfl hcode

/-- Where it comes to no fault, the path leads somewhere behind it. -/
theorem has_of_code (h : Initializes fs path document force code fs') (hcode : code = 0) : fs'.has path = true := by
  cases h with
  | found hhas => exact hhas
  | blocked => cases hcode
  | unwritable => cases hcode
  | written _ _ htarget => exact (readText_of_writeText (writeText_eq_ok_iff.2 ⟨_, htarget, rfl⟩)).1

/-- Where it comes to no fault, the path leads to the document, unless there was something else. -/
theorem readText (h : Initializes fs path document force code fs') (hforced : fs.has path = true → force = true)
    (hcode : code = 0) : fs'.readText path = .ok document := by
  cases h with
  | found hhas hforce => simp [hforced hhas] at hforce
  | blocked => cases hcode
  | unwritable => cases hcode
  | written _ _ htarget => exact (readText_of_writeText (writeText_eq_ok_iff.2 ⟨_, htarget, rfl⟩)).2

/-- **When nothing is lost** but what may be: when there was something at the path, or when the path does not come to
lead to another text by the directories that are made. -/
theorem keepsBut_iff (h : Initializes fs path document force code fs') :
    KeepsBut (fun q => force = true ∧ fs.LeadsTo path q) fs fs' ↔
      fs.has path = true ∨ ∀ made place text?, fs.withDirectories path = (made, none) →
        made.target path = .ok place → made.lookup place = some (.file text?) → text? = some document := by
  have hmore := moreDirectories_withDirectories fs path
  cases h with
  | found hhas => exact ⟨fun _ => .inl hhas, fun _ => (MoreDirectories.refl fs).keepsBut _⟩
  | blocked _ hmade =>
    rw [hmade] at hmore
    refine ⟨fun _ => .inr fun made place text? hmade' => ?_, fun _ => hmore.keepsBut _⟩
    rw [hmade] at hmade'
    cases hmade'
  | unwritable _ hmade htarget =>
    rw [hmade] at hmore
    refine ⟨fun _ => .inr fun made place text? hmade' htarget' => ?_, fun _ => hmore.keepsBut _⟩
    rw [hmade] at hmade'
    cases hmade'
    rw [htarget] at htarget'
    cases htarget'
  | @written made place hforced hmade htarget =>
    rw [hmade] at hmore
    have hput : ∀ q, (made.put place (.file (some document))).lookup q =
        if q = place then some (.file (some document)) else made.lookup q :=
      lookup_put (target_ne_nil htarget) _
    constructor
    · intro hkeeps
      by_cases hhas : fs.has path = true
      · exact .inl hhas
      refine .inr fun made' place' text? hmade' htarget' hfile => ?_
      rw [hmade] at hmade'
      cases hmade'
      obtain rfl : place = place' := Except.ok.inj (htarget.symm.trans htarget')
      -- a file has not been made, so it was there before
      have hbefore : fs.lookup place = some (.file text?) := (hmore.adds hfile).resolve_right (by simp)
      rcases hkeeps place _ hbefore with hstays | ⟨_, hleads⟩
      · rw [hput, if_pos rfl] at hstays
        simpa using hstays.symm
      · exact absurd (has_iff.2 ⟨_, hleads⟩) hhas
    · intro hcondition q n hq
      by_cases hplace : q = place
      · subst hplace
        have hmade_q : made.lookup q = some n := hmore.keeps hq
        rcases hcondition with hhas | hsame
        · -- the path has led to the place already
          obtain ⟨p, hp⟩ := has_iff.1 hhas
          have hleads : made.LeadsTo path q := leadsTo_of_target htarget (by rw [hmade_q]; rfl)
          obtain rfl : p = q := Except.ok.inj ((hmore.leadsTo hp).symm.trans hleads)
          exact .inr ⟨hforced hhas, hp⟩
        · cases n with
          | directory => exact absurd hmade_q (lookup_target_ne_directory htarget)
          | file text? =>
            left
            rw [hput, if_pos rfl, hsame made q text? hmade htarget hmade_q]
      · left
        rw [hput, if_neg hplace]
        exact hmore.keeps hq

/-- **Nothing is lost by a path without a `..`.** -/
theorem keepsBut_of_isTree (h : Initializes fs path document force code fs') (htree : fs.IsTree)
    (hup : ".." ∉ pathParts path) : KeepsBut (fun q => force = true ∧ fs.LeadsTo path q) fs fs' := by
  have hmore := moreDirectories_withDirectories fs path
  refine h.keepsBut_iff.2 (or_iff_not_imp_left.2 fun hnew made place text? hmade htarget hfile => ?_)
  rw [hmade] at hmore
  have hbefore : fs.lookup place = some (.file text?) := (hmore.adds hfile).resolve_right (by simp)
  exact absurd (has_iff.2 ⟨place, leadsTo_of_moreDirectories hmore htree hup htarget hbefore⟩) hnew

end Initializes
end Files

namespace Action

/-- The configuration is written where the directories have been made. -/
theorem exists_runOn_saveAndTell {fs : Files} {path : String} {force : Bool} {c : Config} (line : String) {w : World σ}
    (hforced : fs.has path = true → force = true) (hmade : fs.withDirectories path = (w.files, none)) :
    ∃ outcome w', (do saveConfig path c; printLine line : Action σ Unit).runOn w = (outcome, w') ∧
      fs.Initializes path c.toDocument force (exitCodeOf outcome) w'.files ∧ w'.catalog = w.catalog := by
  cases htarget : w.files.target path with
  | ok place =>
    have hwrite : w.files.writeText path c.toDocument = .ok (w.files.put place (.file (some c.toDocument))) :=
      Files.writeText_eq_ok_iff.2 ⟨place, htarget, rfl⟩
    refine ⟨.ok (), { w with
      files := w.files.put place (.file (some c.toDocument))
      notices := w.notices ++ [.printed (line ++ "\n")] }, ?_, .written hforced hmade htarget, rfl⟩
    rw [runOn_bind, runOn_saveConfig, hwrite]
    exact runOn_printLine line _
  | error fault =>
    have hwrite : w.files.writeText path c.toDocument = .error fault := by
      rw [Files.writeText, htarget]
      rfl
    refine ⟨.error (.file .writeConfig path fault), w, ?_, .unwritable hforced hmade htarget, rfl⟩
    rw [runOn_bind, runOn_saveConfig, hwrite]

/-- **How initializing a configuration ends.** -/
theorem initializes_initConfig (host : Host σ) {path? : Option String} {path : String} (force : Bool) (w : World σ)
    (hpath : host.configPath? path? = some path) :
    let done := (initConfig host path? force).toDone.finish w
    w.files.Initializes path (Config.standard host.now).toDocument force done.exitCode done.world.files ∧
      done.world.catalog = w.catalog := by
  obtain ⟨outcome, w', hrun, hends, hcatalog⟩ :
      ∃ outcome w', (initConfig host path? force).runOn w = (outcome, w') ∧
        w.files.Initializes path (Config.standard host.now).toDocument force (exitCodeOf outcome) w'.files ∧
        w'.catalog = w.catalog := by
    unfold initConfig
    simp only [runOn_bind, runOn_configPath, hpath, Option.elim_some, runOn_fileExists]
    by_cases hfound : (w.files.has path && !force) = true
    · rw [if_pos hfound]
      obtain ⟨hhas, hforce⟩ := Bool.and_eq_true_iff.1 hfound
      exact ⟨.ok (), _, rfl, .found hhas (by simpa using hforce), rfl⟩
    · rw [if_neg hfound]
      have hforced : w.files.has path = true → force = true := by simpa using hfound
      cases hparent : parentPath? path with
      | none =>
        exact exists_runOn_saveAndTell _ hforced (by rw [Files.withDirectories, hparent])
      | some parent =>
        have hmade : w.files.withDirectories path = w.files.makeDirectories parent := by
          rw [Files.withDirectories, hparent]
        dsimp only
        rw [runOn_bind, runOn_makeDirectories]
        cases hfault : (w.files.makeDirectories parent).2 with
        | some fault =>
          exact ⟨.error (.file .makeConfigDirectory parent fault),
            { w with files := (w.files.makeDirectories parent).1 }, rfl,
            .blocked hforced (hmade.trans (Prod.ext rfl hfault)), rfl⟩
        | none =>
          exact exists_runOn_saveAndTell (w := { w with files := (w.files.makeDirectories parent).1 }) _ hforced
            (hmade.trans (Prod.ext rfl hfault))
  obtain ⟨hcode, hfiles, hsame⟩ := finish_eq_of_runOn hrun
  intro done
  rw [show done.exitCode = _ from hcode, show done.world.files = _ from hfiles]
  exact ⟨hends, hsame.trans hcatalog⟩

/-! ## Configurations that have been written -/

/-- The path leads to a configuration that is loaded, and is found to be valid when it is checked, wherever the
environment has no setting. -/
def LoadsAs (w : World σ) (path : String) (c : Config) : Prop :=
  ∀ host : Host σ, Layer.ofEnvironment host.environment = {} →
    ((readConfig host path).runOn w).1 = .ok c ∧
    ∀ (i : Invocation) (file? : Option String), host.configPath? (file? <|> i.config?) = some path →
      ((ofInvocation host { i with command := .validateConfig file? }).finish w).exitCode = 0

theorem exitCode_validateConfig {host : Host σ} {path? : Option String} {path : String} {w : World σ} {c : Config}
    (hpath : host.configPath? path? = some path) (h : ((readConfig host path).runOn w).1 = .ok c) :
    ((validateConfig host path?).toDone.finish w).exitCode = 0 := by
  rcases hread : (readConfig host path).runOn w with ⟨outcome, w'⟩
  rw [hread] at h
  obtain rfl : outcome = .ok c := h
  have hrun : ∃ w'', (validateConfig host path?).runOn w = (.ok (), w'') := by
    simp only [validateConfig, runOn_bind, runOn_configPath, hpath, Option.elim_some, hread, runOn_printLine]
    exact ⟨_, rfl⟩
  obtain ⟨w'', hrun⟩ := hrun
  exact (finish_eq_of_runOn hrun).1

/-- A valid configuration is loaded from its document, whatever the order of its maps. -/
theorem loadsAs_of_readText {w : World σ} {path : String} {c d : Config} (hc : c.IsNormal) (hvalid : c.isValid = true)
    (hd : d.Arranges c) (h : w.files.readText path = .ok d.toDocument) : LoadsAs w path c := by
  intro host hnone
  have hsame : c.override host.environment = c := by rw [Config.override_eq, hnone, Layer.empty_upon]
  have hread : ((readConfig host path).runOn w).1 = .ok c := by
    rw [readConfig_of_readText host hc hd h, hsame]
    exact mapError_validated_eq_ok_iff.2 ⟨hvalid, rfl⟩
  exact ⟨hread, fun i file? hpath => exitCode_validateConfig hpath hread⟩

/-- **Initializing destroys nothing, save behind a missing directory that is left again.** What is at the path stays
without `force`, and the command succeeds. Otherwise it succeeds exactly if the directories for the path can be made and
a file can stand where the path then leads. Everything stays but what may go, which is the file to which the path has
led, and that by `force`, exactly if there was something at the path, or if it does not come to lead to another text by
the directories that are made for it; so it is where the path goes through no `..`. A command that fails has at most
made directories. One that has written leaves the standard configuration, which is valid, and is loaded and found to be
valid again, whatever the order of its maps in the file. The catalog is never asked. And a second command without
`force` succeeds and changes nothing. -/
theorem init_keeps_files_iff (host : Host σ) (w : World σ) (i : Invocation) (force : Bool) {path : String}
    (hpath : host.configPath? i.config? = some path) :
    let c := Config.standard host.now
    let done := (ofInvocation host { i with command := .initConfig force }).finish w
    let nothingLost := w.files.KeepsBut (fun q => force = true ∧ w.files.LeadsTo path q) done.world.files
    (w.files.has path = true → force = false → done.exitCode = 0 ∧ done.world.files = w.files) ∧
    (done.exitCode = 0 ↔ w.files.has path = true ∧ force = false ∨
      ∃ made place, w.files.withDirectories path = (made, none) ∧ made.target path = .ok place) ∧
    (nothingLost ↔
      w.files.has path = true ∨ ∀ made place text?, w.files.withDirectories path = (made, none) →
        made.target path = .ok place → made.lookup place = some (.file text?) → text? = some c.toDocument) ∧
    (w.files.IsTree → ".." ∉ pathParts path → nothingLost) ∧
    (done.exitCode ≠ 0 → w.files.MoreDirectories done.world.files) ∧
    (done.exitCode = 0 → (w.files.has path = true → force = true) →
      done.world.files.readText path = .ok c.toDocument ∧ c.isValid = true ∧
      ∀ (w₁ : World σ) (d : Config), d.Arranges c → w₁.files.readText path = .ok d.toDocument → LoadsAs w₁ path c) ∧
    done.world.catalog = w.catalog ∧
    (done.exitCode = 0 → ∀ (host₂ : Host σ) (i₂ : Invocation), host₂.configPath? i₂.config? = some path →
      let again := (ofInvocation host₂ { i₂ with command := .initConfig false }).finish done.world
      again.exitCode = 0 ∧ again.world.files = done.world.files ∧ again.world.catalog = done.world.catalog) := by
  intro c done nothingLost
  obtain ⟨hends, hcatalog⟩ := initializes_initConfig host force w hpath
  refine ⟨hends.eq_of_has, hends.code_eq_zero_iff, hends.keepsBut_iff, hends.keepsBut_of_isTree, hends.moreDirectories,
    fun hcode hforced => ?_, hcatalog, fun hcode host₂ i₂ hpath₂ => ?_⟩
  · have hvalid := Config.isValid_standard host.now
    exact ⟨hends.readText hforced hcode, hvalid, fun w₁ d => loadsAs_of_readText (Config.isNormal_standard host.now) hvalid⟩
  · obtain ⟨hends₂, hcatalog₂⟩ := initializes_initConfig host₂ false done.world hpath₂
    obtain ⟨hcode₂, hfiles₂⟩ := hends₂.eq_of_has (hends.has_of_code hcode) rfl
    exact ⟨hcode₂, hfiles₂, hcatalog₂⟩

/-- A configuration in a directory that is missing, on a machine that has another one. -/
theorem init_in_missing_directory :
    let host := Host.offline []
    let path := "/etc/gateways/north/registrar.toml"
    let i : Invocation := { config? := some path, verbose := false, logJson := false, command := .showConfig }
    let done := (ofInvocation host { i with command := .initConfig false }).finish World.hasty
    host.configPath? i.config? = some path ∧ World.hasty.files.IsTree ∧ ".." ∉ pathParts path ∧ done.exitCode = 0 ∧
    done.world.files.lookup ["etc", "registrar.toml"] = some (.file (some Config.hastyDocument)) ∧
    ((ofInvocation host { i with command := .validateConfig none }).finish done.world).exitCode = 0 ∧
    ((ofInvocation host { i with command := .initConfig false }).finish done.world).world.files = done.world.files := by
  intro host path i done
  have hpath : host.configPath? i.config? = some path := rfl
  have htree : World.hasty.files.IsTree := Files.isTree_of_nodes (by decide)
  have hup : ".." ∉ pathParts path := by decide
  have hcode : done.exitCode = 0 := by decide +kernel
  have hnew : World.hasty.files.has path = true → false = true := by decide
  obtain ⟨_, _, _, hkeeps, _, hwritten, _, hagain⟩ := init_keeps_files_iff host World.hasty i false hpath
  have hother := hkeeps htree hup ["etc", "registrar.toml"] (.file (some Config.hastyDocument)) rfl
  obtain ⟨hread, _, hloads⟩ := hwritten hcode hnew
  have hvalidate := (hloads done.world (Config.standard host.now) (.refl _) hread host rfl).2 i none hpath
  exact ⟨hpath, htree, hup, hcode, hother.resolve_right (by simp), hvalidate, (hagain hcode host i hpath).2.1⟩

/-- A path through a directory that is missing, and back: nothing is there at first, and yet a configuration that was
there is overwritten without being forced. -/
theorem init_through_missing_directory :
    let path := "/etc/new/../registrar.toml"
    let i : Invocation := { config? := some path, verbose := false, logJson := false, command := .initConfig false }
    let done := (ofInvocation (Host.offline []) i).finish World.hasty
    World.hasty.files.IsTree ∧ World.hasty.files.has path = false ∧ done.exitCode = 0 ∧
    World.hasty.files.lookup ["etc", "registrar.toml"] = some (.file (some Config.hastyDocument)) ∧
    done.world.files.lookup ["etc", "registrar.toml"] ≠ World.hasty.files.lookup ["etc", "registrar.toml"] := by
  intro path i done
  have htree : World.hasty.files.IsTree := Files.isTree_of_nodes (by decide)
  exact ⟨htree, by decide +kernel, by decide +kernel, rfl, by decide +kernel⟩

end Action
end GatewayRegistrar
