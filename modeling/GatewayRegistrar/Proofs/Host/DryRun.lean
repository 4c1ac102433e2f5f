import GatewayRegistrar.Proofs.Cycle.Offering
import GatewayRegistrar.Proofs.Cycle.Tags
import GatewayRegistrar.Proofs.Host.Saving
import GatewayRegistrar.Proofs.Registration.Coding
import GatewayRegistrar.Proofs.Service.Coding

/-!
# Dry runs

Loading a configuration and reading resources change nothing but what is told (`Tells`). So a dry run and a real run
of a file come to the same resources under the same configuration, each with their tags in an order of its own
(`Host.resourcesOf`). A dry run prints the plan of what it has come to (`finish_dry`), and a real run offers the plan of
what it has come to (`finish_real`). Where no two tags of a resource clash, both have one plan, and the one shows what
the other does (`dry_run_shows_real_run`); two tags that clash are enough to tell them apart (`clashing_tags_tell`).
-/

namespace GatewayRegistrar

open CommandLine

variable {σ α β : Type}

/-! ## Telling -/

namespace World

/-- The world in which some more events have been told. -/
def telling (w : World σ) (es : List Event) : World σ := { w with notices := w.notices ++ es.map .told }

@[simp] theorem files_telling (w : World σ) (es : List Event) : (w.telling es).files = w.files := rfl

@[simp] theorem catalog_telling (w : World σ) (es : List Event) : (w.telling es).catalog = w.catalog := rfl

@[simp] theorem telling_telling (w : World σ) (es ds : List Event) :
    (w.telling es).telling ds = w.telling (es ++ ds) := by
  simp [telling]

theorem telling_nil (w : World σ) : w.telling [] = w := by
  simp [telling]

/-- The world in which one more text has been printed. -/
def printing (w : World σ) (text : String) : World σ := { w with notices := w.notices ++ [.printed text] }

@[simp] theorem files_printing (w : World σ) (text : String) : (w.printing text).files = w.files := rfl

@[simp] theorem catalog_printing (w : World σ) (text : String) : (w.printing text).catalog = w.catalog := rfl

@[simp] theorem output_printing (w : World σ) (text : String) : (w.printing text).output = w.output ++ text := by
  simp [printing, output, List.filterMap_append]

@[simp] theorem output_telling (w : World σ) (es : List Event) : (w.telling es).output = w.output := by
  simp [telling, output, List.filterMap_append, List.filterMap_map]

end World

namespace Action

/-- The action changes nothing but what is told. -/
def Tells (a : Action σ α) : Prop := ∀ w, ∃ es, (a.runOn w).2 = w.telling es

theorem tells_of_eq {a : Action σ α} (h : ∀ w, (a.runOn w).2 = w) : Tells a := fun w => ⟨[], by rw [h, w.telling_nil]⟩

theorem tells_pure (x : α) : Tells (pure x : Action σ α) := tells_of_eq fun _ => rfl

theorem tells_throw (f : Failure) : Tells (throw f : Action σ α) := tells_of_eq fun _ => rfl

theorem tells_tell (es : List Event) : Tells (tell es : Action σ Unit) := fun _ => ⟨es, rfl⟩

theorem tells_fileExists (path : String) : Tells (fileExists path : Action σ Bool) := tells_of_eq fun _ => rfl

theorem tells_orFail {ε : Type} (failure : ε → Failure) (x : Except ε α) : Tells (orFail failure x : Action σ α) :=
  tells_of_eq fun _ => by rw [runOn_orFail]

theorem tells_readFile (action : FileAction) (path : String) : Tells (readFile action path : Action σ String) :=
  tells_of_eq fun _ => by rw [runOn_readFile]

/-- What is told by the parts of an action is told by the action. -/
theorem Tells.bind {a : Action σ α} {next : α → Action σ β} (ha : Tells a) (hnext : ∀ x, Tells (next x)) :
    Tells (a >>= next) := by
  intro w
  obtain ⟨es, hes⟩ := ha w
  rw [runOn_bind]
  rcases hfirst : a.runOn w with ⟨f | x, w'⟩
  · rw [hfirst] at hes
    exact ⟨es, hes⟩
  · rw [hfirst] at hes
    obtain ⟨ds, hds⟩ := hnext x w'
    refine ⟨es ++ ds, ?_⟩
    rw [← w.telling_telling, ← hes]
    exact hds

theorem tells_configPath (host : Host σ) (path? : Option String) : Tells (configPath host path?) :=
  tells_of_eq fun _ => by rw [runOn_configPath]

theorem tells_checkConfig (c : Config) : Tells (checkConfig c : Action σ Config) :=
  (tells_tell _).bind fun _ => tells_orFail _ _

theorem tells_overrideConfig (host : Host σ) (c : Config) : Tells (overrideConfig host c) :=
  (tells_tell _).bind fun _ => tells_pure _

theorem tells_readConfig (host : Host σ) (path : String) : Tells (readConfig host path) := by
  refine (tells_fileExists path).bind fun found => ?_
  have hread := (tells_readFile (σ := σ) .readConfig path).bind fun document =>
    (tells_orFail (fun fault => .load (.document fault)) (Config.ofDocument host.now document)).bind fun c =>
      (tells_overrideConfig host c).bind tells_checkConfig
  cases found with
  | true => exact hread
  | false => exact (tells_throw _).bind fun _ => hread

/-- **Loading a configuration changes nothing but what is told.** -/
theorem tells_loadConfig (host : Host σ) (path? : Option String) (o : Options) : Tells (loadConfig host path? o) := by
  refine (tells_configPath host path?).bind fun path => (tells_fileExists path).bind fun found => ?_
  cases found with
  | true => exact (tells_readConfig host path).bind fun _ => tells_checkConfig _
  | false => exact (tells_tell _).bind fun _ => (tells_overrideConfig host _).bind fun _ => tells_checkConfig _

theorem runOn_loadConfig {host : Host σ} {path? : Option String} {o : Options} {w : World σ} {c : Config}
    (h : ((loadConfig host path? o).runOn w).1 = .ok c) :
    ∃ es, (loadConfig host path? o).runOn w = (.ok c, w.telling es) := by
  obtain ⟨es, hes⟩ := tells_loadConfig host path? o w
  exact ⟨es, Prod.ext h hes⟩

/-- A configuration in use is in normal form. -/
theorem isNormal_of_loadConfig {host : Host σ} {path? : Option String} {o : Options} {w : World σ} {c : Config}
    (h : ((loadConfig host path? o).runOn w).1 = .ok c) : c.IsNormal := by
  obtain ⟨path, base, _, hbase, _, _, rfl⟩ := loadConfig_eq_ok_iff.1 h
  have hnormal : base.IsNormal := by
    cases hbase with
    | standard => exact Config.isNormal_standard host.now
    | stored _ _ hdocument => exact Config.isNormal_of_ofDocument hdocument
  have hoverride := hnormal.override host.environment
  exact ⟨hoverride.nodeMeta, hoverride.serviceMeta⟩

/-! ## Resources of a file -/

theorem runOn_readResources {w : World σ} {path : String} {ds : List Resource} {l : Json.Layout}
    (h : w.files.readText path = .ok (String.ofList (Json.write l (.list (ds.map Resource.encode))))) :
    (readResources path).runOn w = (.ok (ds.map Resource.normalized), w) := by
  rw [readResources, runOn_bind, runOn_readFile, h]
  simp only [Except.mapError, Resource.parseSelected?_resources, runOn_orFail, Resource.listOf_resources]

end Action

/-! ## Resources as a command sees them -/

/-- The resources of a file as a command sees them: as they are read, and with their tags in the orders of the host. -/
def Host.resourcesOf (host : Host σ) (ds : List Resource) : List Resource :=
  (ds.map Resource.normalized).mapIdx fun n r => r.inOrder (host.tagOrders n)

/-- The order in which the tags are listed, the other way round. -/
def TagOrder.backwards : TagOrder := ⟨List.reverse, List.reverse_perm⟩

/-- What holds of each item in its place holds of the list. -/
theorem forall₂_mapIdx {α β γ : Type} {R : α → β → Prop} {S : γ → β → Prop} {f : Nat → α → γ}
    (hf : ∀ n a b, R a b → S (f n a) b) {as : List α} {bs : List β} (h : List.Forall₂ R as bs) :
    List.Forall₂ S (as.mapIdx f) bs := by
  induction h generalizing f with
  | nil => exact .nil
  | cons hr _ ih =>
    rw [List.mapIdx_cons]
    exact .cons (hf 0 _ _ hr) (ih fun n => hf (n + 1))

namespace Resource

theorem Arranges.normalized {d r : Resource} (h : d.Arranges r) (hr : (r.tags.map (·.1)).Nodup) :
    d.normalized.Arranges r where
  id? := h.id?
  name? := h.name?
  tags := (sortEntries_perm ((h.tags.map _).nodup_iff.2 hr)).trans h.tags
  stageNames := h.stageNames

theorem Arranges.inOrder {d r : Resource} (h : d.Arranges r) (o : TagOrder) : (d.inOrder o).Arranges r where
  id? := h.id?
  name? := h.name?
  tags := (o.perm d.tags).trans h.tags
  stageNames := h.stageNames

end Resource

/-- **The orders of the host make no other plan** of resources without tags that clash. -/
theorem Host.plan_resourcesOf (host : Host σ) {ds rs : List Resource}
    (h : List.Forall₂ (fun d r => d.Arranges r ∧ (r.tags.map (·.1)).Nodup ∧ r.ClashFree) ds rs) (s : Settings)
    {room : Nat} : s.plan room (host.resourcesOf ds) = s.plan room rs := by
  have hread : List.Forall₂ (fun d r => d.Arranges r ∧ (r.tags.map (·.1)).Nodup ∧ r.ClashFree)
      (ds.map Resource.normalized) rs :=
    List.forall₂_map_left_iff.2 (h.imp fun d r ⟨hd, hr, hclash⟩ => ⟨hd.normalized hr, hr, hclash⟩)
  refine Settings.plan_of_alike (forall₂_mapIdx (fun n d r ⟨hd, hr, hclash⟩ => ?_) hread)
  exact s.alike_of_arranges room (hd.inOrder (host.tagOrders n)) hr hclash

/-! ## What is printed -/

/-- Every planned registration is in normal form. -/
theorem Config.IsNormal.plan {c : Config} (hc : c.IsNormal) {room : Nat} {rs : List Resource} {p : Plan}
    (hp : c.settings.plan room rs = some p) : ∀ r ∈ p.registrations, r.IsNormal := by
  intro r hr
  obtain ⟨i, _, hr⟩ := Settings.exists_of_mem_registrations hp hr
  obtain ⟨tags, _, rfl⟩ := Option.map_eq_some_iff.1 hr
  exact Registration.isNormal_compose i tags hc.nodeMeta

/-- **Registrations that are printed are read back.** -/
theorem parse?_registrations {ps : List Registration} (h : ∀ p ∈ ps, p.IsNormal) :
    (Json.parse? (Json.pretty (.list (ps.map (·.encode))) ++ "\n")).map (Decoder.listOf Registration.decode) =
      some (.ok ps) := by
  have hplain : Json.Plain Json.nestingLimit (.list (ps.map (·.encode))) := by
    refine .list fun v hv => ?_
    obtain ⟨p, _, rfl⟩ := List.mem_map.1 hv
    exact p.plain_encode
  have hnormal : ps.map Registration.normalized = ps :=
    (List.map_congr_left fun p hp => (h p hp).normalized_eq).trans (List.map_id ps)
  have hdecode : Decoder.listOf Registration.decode (.list (ps.map (·.encode))) =
      .ok (ps.map Registration.normalized) := mapM_ok Registration.decode_encode ps
  rw [Json.parse?_pretty_line hplain, Option.map_some, hdecode, hnormal]

/-! ## What is offered -/

/-- A sink that takes every registration and keeps them. -/
def recording : Sink (List Registration) := fun taken r => (taken ++ [r], none)

theorem Serves.recorded {state final : List Registration} {os : List Offer} (h : Serves recording state os final) :
    final = state ++ os.map (·.registration) := by
  induction h with
  | nil state => rw [List.map_nil, List.append_nil]
  | cons hs _ ih =>
    obtain ⟨rfl, rfl⟩ := Prod.mk.inj hs
    rw [ih, List.map_cons, List.append_assoc]
    rfl

namespace Action

/-! ## Runs -/

theorem runOn_dryRun {s : Settings} {room : Nat} {rs : List Resource} {p : Plan} (hp : s.plan room rs = some p)
    (w : World σ) :
    ∃ es ds, (dryRun room s (.ok rs)).runOn w = (.ok .done,
      ((w.telling es).printing (Json.pretty (.list (p.registrations.map (·.encode))) ++ "\n")).telling ds) := by
  refine ⟨s.planEvents room rs, [.dryRunComplete p.report], ?_⟩
  simp only [dryRun, runOn_bind, runOn_orFail, Except.mapError, runOn_tell, hp, runOn_printLine, runOn_pure]
  rfl

theorem runOn_cycle {host : Host σ} {c : Config} {rs : List Resource} {p : Plan}
    (hp : c.settings.plan host.room rs = some p) (w : World σ) :
    ∃ w', (cycle host c (.ok rs)).runOn w = (.ok .done, w') ∧
      w'.catalog = (offerAll (host.sink c.agent) w.catalog p.registrations).1 := by
  have hcycle := c.settings.runCycle_of_plan host.room (host.sink c.agent) hp w.catalog
  have hget : (get : Action σ (World σ)).runOn w = (.ok w, w) := rfl
  have hmodify : ∀ (f : World σ → World σ) (w : World σ), (modify f : Action σ Unit).runOn w = (.ok (), f w) :=
    fun _ _ => rfl
  simp only [cycle, runOn_bind, hget, hmodify, runOn_tell, hcycle, runOn_orFail, Except.mapError, runOn_printLine,
    runOn_pure]
  exact ⟨_, rfl, rfl⟩

/-- A dry run does not depend on the sink of the catalog. -/
theorem sync_dry_sink (host : Host σ) (sink : CatalogAgent → Sink σ) (path? : Option String) (o : Options)
    (resources? : Option String) :
    sync { host with sink } path? o true resources? = sync host path? o true resources? := by
  have hload : loadConfig { host with sink } path? o = loadConfig host path? o := rfl
  have hlist : ∀ c, listOnce { host with sink } c resources? = listOnce host c resources? := by
    cases resources? <;> exact fun _ => rfl
  simp only [sync, hload, hlist, ↓reduceIte]

theorem finish_of_runOn {a : Action σ Completion} {w w' : World σ} {e : Completion} (h : a.runOn w = (.ok e, w')) :
    a.finish w = ⟨w', e.exitCode⟩ := by
  unfold runOn at h
  rw [finish, h]

section OfFile

variable {host : Host σ} {i : Invocation} {o : Options} {w : World σ} {c : Config} {path : String} {ds : List Resource}
  {l : Json.Layout} {p : Plan} (hload : ((loadConfig host i.config? o).runOn w).1 = .ok c)
  (hfile : w.files.readText path = .ok (String.ofList (Json.write l (.list (ds.map Resource.encode)))))
include hload hfile

/-- A single cycle of the resources in a file, and what it would do, under a configuration that is loaded. -/
theorem runOn_sync (dry : Bool) :
    ∃ es, (sync host i.config? o dry (some path)).runOn w =
      (if dry then dryRun host.room c.settings (.ok (host.resourcesOf ds))
        else cycle host c (.ok (host.resourcesOf ds))).runOn (w.telling es) := by
  obtain ⟨es, hes⟩ := runOn_loadConfig hload
  have hread : (listOnce host c (some path)).runOn (w.telling es) =
      (.ok (.ok (host.resourcesOf ds)), w.telling es) := by
    rw [listOnce, runOn_bind, runOn_readResources (w := w.telling es) hfile]
    rfl
  refine ⟨es, ?_⟩
  rw [sync, runOn_bind, hes]
  simp only [runOn_bind, hread]

variable (hp : c.settings.plan host.room (host.resourcesOf ds) = some p)
include hp

/-- **A dry run prints its plan**, and neither asks nor changes anything else. -/
theorem finish_dry :
    let dry := (ofInvocation host { i with command := .sync o true (some path) }).finish w
    dry.exitCode = 0 ∧ dry.world.catalog = w.catalog ∧ dry.world.files = w.files ∧
      (∀ sink, (ofInvocation { host with sink } { i with command := .sync o true (some path) }).finish w = dry) ∧
      ∃ printed, dry.world.output = w.output ++ printed ∧
        (Json.parse? printed).map (Decoder.listOf Registration.decode) = some (.ok p.registrations) := by
  intro dry
  obtain ⟨es, hsync⟩ := runOn_sync hload hfile true
  obtain ⟨before, after, hprint⟩ := runOn_dryRun hp (w.telling es)
  have hend : dry = _ := finish_of_runOn (hsync.trans hprint)
  have hsame := fun sink => congrArg (finish · w) (sync_dry_sink host sink i.config? o (some path))
  refine ⟨?_, ?_, ?_, hsame, _, ?_, parse?_registrations ((isNormal_of_loadConfig hload).plan hp)⟩ <;>
    simp [hend, Completion.exitCode]

/-- **A real run offers its plan**, each registration once and in its place. -/
theorem finish_real :
    let real := (ofInvocation host { i with command := .sync o false (some path) }).finish w
    real.exitCode = 0 ∧ ∃ os, Serves (host.sink c.agent) w.catalog os real.world.catalog ∧
      os.map (·.registration) = p.registrations := by
  intro real
  obtain ⟨es, hsync⟩ := runOn_sync hload hfile false
  obtain ⟨w', hcycle, hcatalog⟩ := runOn_cycle hp (w.telling es)
  have hend : real = _ := finish_of_runOn (hsync.trans hcycle)
  refine ⟨by rw [hend]; rfl, _, ?_, offerAll_registrations (host.sink c.agent) w.catalog p.registrations⟩
  rw [hend]
  show Serves _ _ _ w'.catalog
  rw [hcatalog]
  exact serves_offerAll (host.sink c.agent) w.catalog p.registrations

end OfFile

/-- **A dry run tells the truth**, as long as no two tags of a resource clash. Let a configuration be loaded, let a file
hold the text of some resources, with their tags in any order, and let there be a plan for these resources. Then a dry
run of the file succeeds, leaves the catalog and the files as they are, and does not even depend on the sink of the
catalog; it prints one text, which is read as the list of the registrations in this plan. A real run succeeds as well,
and these registrations are what it offers to the sink, each once and in their order. Each of the two runs may go
through the tags of each resource in an order of its own. -/
theorem dry_run_shows_real_run (host : Host σ) (w : World σ) (i : Invocation) (o : Options) (path : String)
    {c : Config} (hload : ((loadConfig host i.config? o).runOn w).1 = .ok c) {ds rs : List Resource}
    (hds : List.Forall₂ (fun d r => d.Arranges r ∧ (r.tags.map (·.1)).Nodup ∧ r.ClashFree) ds rs) (l : Json.Layout)
    (hfile : w.files.readText path = .ok (String.ofList (Json.write l (.list (ds.map Resource.encode)))))
    {p : Plan} (hp : c.settings.plan host.room rs = some p) (dryOrders realOrders : Nat → TagOrder) :
    let dryHost := { host with tagOrders := dryOrders }
    let realHost := { host with tagOrders := realOrders }
    let dry := (ofInvocation dryHost { i with command := .sync o true (some path) }).finish w
    let real := (ofInvocation realHost { i with command := .sync o false (some path) }).finish w
    (dry.exitCode = 0 ∧ dry.world.catalog = w.catalog ∧ dry.world.files = w.files ∧
      (∀ sink, (ofInvocation { dryHost with sink } { i with command := .sync o true (some path) }).finish w = dry) ∧
      ∃ printed, dry.world.output = w.output ++ printed ∧
        (Json.parse? printed).map (Decoder.listOf Registration.decode) = some (.ok p.registrations)) ∧
    real.exitCode = 0 ∧
      ∃ os, Serves (host.sink c.agent) w.catalog os real.world.catalog ∧
        os.map (·.registration) = p.registrations := by
  intro dryHost realHost dry real
  -- neither the configuration nor the text of the file depends on the orders
  have hdry : ((loadConfig dryHost i.config? o).runOn w).1 = .ok c := hload
  have hreal : ((loadConfig realHost i.config? o).runOn w).1 = .ok c := hload
  exact ⟨finish_dry hdry hfile ((dryHost.plan_resourcesOf hds c.settings).trans hp),
    finish_real hreal hfile ((realHost.plan_resourcesOf hds c.settings).trans hp)⟩

/-- A file with two gateways, one of them with its tags out of order, the other with nothing at all, and a real run that
goes through the tags backwards. -/
theorem dry_run_of_orders :
    let o : Options := { tags := ["{{Name}}"] }
    let c : Config := o.applyTo (.standard "now")
    let d : Resource :=
      { id? := some "a1", name? := some "dev-заказы", tags := [("team", none), ("STAGE", some "dev")] }
    let r : Resource := { d with tags := [("STAGE", some "dev"), ("team", none)] }
    let text := String.ofList (Json.write (.indented 0) (.list ([d, {}].map Resource.encode)))
    let w := World.holding "etc" "gateways.json" text
    let i : Invocation :=
      { config? := some "/etc/registrar.toml", verbose := false, logJson := false, command := .showConfig }
    let host := Host.offline []
    ((loadConfig host i.config? o).runOn w).1 = .ok c ∧
      List.Forall₂ (fun d r => d.Arranges r ∧ (r.tags.map (·.1)).Nodup ∧ r.ClashFree) [d, {}] [r, {}] ∧
      w.files.readText "/etc/gateways.json" = .ok text ∧
      ∃ p, c.settings.plan 0 [r, {}] = some p ∧
        p.registrations.map (fun p => (p.node, p.tags)) = [("заказы", ["заказы"])] ∧
        (∃ printed,
          ((ofInvocation { host with tagOrders := fun _ => .asListed }
            { i with command := .sync o true (some "/etc/gateways.json") }).finish w).world.output =
              w.output ++ printed ∧
          (Json.parse? printed).map (Decoder.listOf Registration.decode) = some (.ok p.registrations)) ∧
        ∃ os,
          Serves (host.sink c.agent) w.catalog os
            ((ofInvocation { host with tagOrders := fun _ => .backwards }
              { i with command := .sync o false (some "/etc/gateways.json") }).finish w).world.catalog ∧
          os.map (·.registration) = p.registrations := by
  intro o c d r text w i host
  have hload : ((loadConfig host i.config? o).runOn w).1 = .ok c :=
    loadConfig_eq_ok_iff.2 ⟨"/etc/registrar.toml", .standard "now", rfl, .standard rfl, fun h => (by cases h),
      by decide +kernel, rfl⟩
  have hclash : r.ClashFree := by
    unfold Resource.ClashFree
    decide +kernel
  have hresources : List.Forall₂ (fun d r => d.Arranges r ∧ (r.tags.map (·.1)).Nodup ∧ r.ClashFree) [d, {}] [r, {}] :=
    .cons ⟨⟨rfl, rfl, by decide, rfl⟩, by decide, hclash⟩ (.cons ⟨⟨rfl, rfl, .refl _, rfl⟩, List.nodup_nil, nofun⟩ .nil)
  have hfile : w.files.readText "/etc/gateways.json" = .ok text := rfl
  have hplan : (c.settings.plan 0 [r, {}]).map (·.registrations.map fun p => (p.node, p.tags)) =
      some [("заказы", ["заказы"])] := by decide +kernel
  obtain ⟨p, hp, hnodes⟩ := Option.map_eq_some_iff.1 hplan
  obtain ⟨⟨_, _, _, _, hprinted⟩, _, hoffered⟩ := dry_run_shows_real_run host w i o "/etc/gateways.json" hload
    hresources (.indented 0) hfile hp (fun _ => .asListed) (fun _ => .backwards)
  exact ⟨hload, hresources, hfile, p, hp, hnodes, hprinted, hoffered⟩

/-- Two tags that become one key with two values: a dry run that goes through them in one order prints one registration,
and a real run that goes through them in the other order offers another. -/
theorem clashing_tags_tell :
    let r : Resource := { Resource.named "a1" "orders" with
      tags := [("team name", some "a b"), ("team-name", some "c")] }
    let text := String.ofList (Json.write .compact (.list ([r].map Resource.encode)))
    let w : World (List Registration) := { files := (World.holding "etc" "gateways.json" text).files, catalog := [] }
    let host : Host (List Registration) :=
      { now := "now", environment := [], configHome? := none, list := fun _ _ => .ok [], sink := fun _ => recording
        pauses := [], room := 0, tagOrders := fun _ => .asListed }
    let realHost : Host (List Registration) := { host with tagOrders := fun _ => .backwards }
    let i : Invocation :=
      { config? := some "/etc/registrar.toml", verbose := false, logJson := false, command := .showConfig }
    ((loadConfig host i.config? {}).runOn w).1 = .ok (.standard "now") ∧ (r.tags.map (·.1)).Nodup ∧
      w.files.readText "/etc/gateways.json" = .ok text ∧
      ∃ shown offered : Registration,
        (∃ printed,
          ((ofInvocation host { i with command := .sync {} true (some "/etc/gateways.json") }).finish w).world.output =
            w.output ++ printed ∧
          (Json.parse? printed).map (Decoder.listOf Registration.decode) = some (.ok [shown])) ∧
        ((ofInvocation realHost
          { i with command := .sync {} false (some "/etc/gateways.json") }).finish w).world.catalog = [offered] ∧
        shown.serviceMetadata = [("external-source", "aws"), ("team-name", "c")] ∧
        offered.serviceMetadata = [("external-source", "aws"), ("team-name", "a-b")] := by
  intro r text w host realHost i
  have hload : ((loadConfig host i.config? {}).runOn w).1 = .ok (.standard "now") :=
    loadConfig_eq_ok_iff.2 ⟨"/etc/registrar.toml", .standard "now", rfl, .standard rfl, nofun, by decide +kernel, rfl⟩
  have hload' : ((loadConfig realHost i.config? {}).runOn w).1 = .ok (.standard "now") := hload
  have hfile : w.files.readText "/etc/gateways.json" = .ok text := rfl
  have hdryPlan : ((Config.standard "now").settings.plan host.room (host.resourcesOf [r])).map
      (·.registrations.map (·.serviceMetadata)) = some [[("external-source", "aws"), ("team-name", "c")]] := by
    decide +kernel
  have hrealPlan : ((Config.standard "now").settings.plan realHost.room (realHost.resourcesOf [r])).map
      (·.registrations.map (·.serviceMetadata)) = some [[("external-source", "aws"), ("team-name", "a-b")]] := by
    decide +kernel
  obtain ⟨p, hp, hpmeta⟩ := Option.map_eq_some_iff.1 hdryPlan
  obtain ⟨q, hq, hqmeta⟩ := Option.map_eq_some_iff.1 hrealPlan
  obtain ⟨shown, hps, hshown⟩ := List.map_eq_singleton_iff.1 hpmeta
  obtain ⟨offered, hqs, hoffered⟩ := List.map_eq_singleton_iff.1 hqmeta
  obtain ⟨_, _, _, _, hprinted⟩ := finish_dry hload hfile hp
  obtain ⟨_, os, hserves, hos⟩ := finish_real hload' hfile hq
  refine ⟨hload, by decide, hfile, shown, offered, hps ▸ hprinted, ?_, hshown, hoffered⟩
  have hcatalog := hserves.recorded
  rwa [hos, hqs] at hcatalog

end Action
end GatewayRegistrar
