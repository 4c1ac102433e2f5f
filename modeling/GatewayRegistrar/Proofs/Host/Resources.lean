import GatewayRegistrar.Proofs.Host.DryRun
import GatewayRegistrar.Proofs.Service.Acceptance

/-!
# Resources that are read or not

The resources of a file are read exactly where its text lists them (`readResources_eq`). Where it lists none, a single
cycle goes no further: nothing is printed, no file is changed, and the catalog is never asked (`runOn_sync_of_unread`).
So one bad item among the items of a list is as bad as no list at all (`resources_all_or_nothing`).
-/

namespace GatewayRegistrar
namespace Action

open CommandLine Resource

variable {σ : Type} {w : World σ} {path text : String}

/-- What becomes of reading a file depends on its text only: the resources that the text lists, or a failure. -/
theorem readResources_eq (path text : String) :
    ∃ found : Except Failure (List Resource), (∀ rs, found = .ok rs ↔ ListedBy text rs) ∧
      ∀ {σ : Type} (w : World σ), w.files.readText path = .ok text → (readResources path).runOn w = (found, w) := by
  cases hparse : Json.parseSelected? selection text with
  | none =>
    refine ⟨.error (.resources path none), fun rs => ⟨fun h => (by cases h), ?_⟩, fun w hfile => ?_⟩
    · rintro ⟨items, hitems, _⟩
      rw [hparse] at hitems
      cases hitems
    · rw [readResources, runOn_bind, runOn_readFile, hfile]
      simp only [Except.mapError, hparse]
      rfl
  | some v =>
    refine ⟨(Decoder.listOf decode v).mapError fun fault => .resources path (some fault), fun rs => ?_,
      fun w hfile => ?_⟩
    · have hdecode : Decoder.listOf decode v = .ok rs ↔ ∃ items, v = .list items ∧ List.Forall₂ Describes items rs :=
        listOf_decode_eq_ok_iff
      simp only [ListedBy, hparse, Option.some.injEq, ← hdecode]
      cases Decoder.listOf decode v <;> simp [Except.mapError]
    · rw [readResources, runOn_bind, runOn_readFile, hfile]
      simp only [Except.mapError, hparse, runOn_orFail]

/-! ## Cycles that go no further -/

/-- A cycle whose resources cannot be read loads the configuration and fails, whatever the sink of the catalog. -/
theorem runOn_sync_of_unread (host : Host σ) {f : Failure}
    (hread : ∀ es, (readResources path).runOn (w.telling es) = (.error f, w.telling es)) (sink : CatalogAgent → Sink σ)
    (path? : Option String) (o : Options) (dry : Bool) :
    ∃ g es, (sync { host with sink } path? o dry (some path)).runOn w = (.error g, w.telling es) ∧
      (sync host path? o dry (some path)).runOn w = (.error g, w.telling es) := by
  have hload : loadConfig { host with sink } path? o = loadConfig host path? o := rfl
  obtain ⟨es, hes⟩ := tells_loadConfig host path? o w
  simp only [sync, runOn_bind, hload]
  rcases hconfig : (loadConfig host path? o).runOn w with ⟨found, w'⟩
  rw [hconfig] at hes
  obtain rfl : w' = w.telling es := hes
  cases found with
  | error g => exact ⟨g, es, rfl, rfl⟩
  | ok c => refine ⟨f, es, ?_, ?_⟩ <;> simp only [listOnce, runOn_bind, hread]

theorem finish_of_runOn_error {a : Action σ Completion} {w' : World σ} {f : Failure} (h : a.runOn w = (.error f, w')) :
    a.finish w = ⟨w'.telling [.commandFailed f], 1⟩ := by
  unfold runOn at h
  rw [finish, h]
  rfl

/-- **Resources are read all or not at all.** A file gives exactly the resources that its text lists: one for each item,
in order. If its text is a value as a whole, it lists resources exactly where this value is a list whose items tell
them. Otherwise it is no list, or some item of it tells no resource; and then a single cycle of the file, dry or not and
under any options, fails with exit code 1, prints nothing, changes no file, and leaves the catalog as it is, whatever
the sink would have done. -/
theorem resources_all_or_nothing (host : Host σ) (w : World σ) (path : String) {text : String}
    (hfile : w.files.readText path = .ok text) :
    (∀ rs, (readResources path).runOn w = (.ok rs, w) ↔ ListedBy text rs) ∧
    (∀ v, Json.parse? text = some v →
      ∀ rs, ListedBy text rs ↔ ∃ items, v = .list items ∧ List.Forall₂ Describes items rs) ∧
    ((¬∃ rs, ListedBy text rs) ↔
      ∀ items, Json.parseSelected? selection text = some (.list items) → ∃ v ∈ items, ∀ r, ¬Describes v r) ∧
    ((¬∃ rs, ListedBy text rs) → ∀ (i : Invocation) (o : Options) (dry : Bool),
      let done := (ofInvocation host { i with command := .sync o dry (some path) }).finish w
      done.exitCode = 1 ∧ done.world.output = w.output ∧ done.world.catalog = w.catalog ∧ done.world.files = w.files ∧
        ∀ sink, (ofInvocation { host with sink } { i with command := .sync o dry (some path) }).finish w = done) := by
  obtain ⟨found, hfound, hread⟩ := readResources_eq path text
  refine ⟨fun rs => ?_, fun v hv rs => listedBy_iff_of_parse? hv, not_listedBy_iff, ?_⟩
  · rw [hread w hfile, Prod.mk.injEq, hfound]
    exact and_iff_left rfl
  · intro hnone i o dry done
    cases found with
    | ok rs => exact absurd ⟨rs, (hfound rs).1 rfl⟩ hnone
    | error f =>
      have hunread := fun es => hread (w.telling es) hfile
      have hend := fun sink => runOn_sync_of_unread host hunread sink i.config? o dry
      obtain ⟨g, es, _, hhost⟩ := hend host.sink
      have hdone : done = ⟨(w.telling es).telling [.commandFailed g], 1⟩ := finish_of_runOn_error hhost
      refine ⟨by rw [hdone], by simp [hdone], by simp [hdone], by simp [hdone], fun sink => ?_⟩
      obtain ⟨g', es', hsink, hsame⟩ := hend sink
      exact (finish_of_runOn_error hsink).trans (finish_of_runOn_error hsame).symm

/-- A file with three gateways, told by a table with one more key, by a list, and by a table with nothing in it; and one
with a good gateway before another one whose name is a number. -/
theorem resources_of_three_forms :
    let good : Value := .list [.table [("tags", .table [("team", .null), ("STAGE", .text "dev")]), ("region", .integer 7),
      ("resource_id", .text "a1")], .list [.text "b2", .null], .table []]
    let bad : Value := .list [.table [("name", .text "dev-orders")], .table [("name", .integer 3)]]
    let w := World.holding "etc" "gateways.json" (Json.compact good)
    let badWorld := World.holding "etc" "gateways.json" (Json.compact bad)
    let i : Invocation := { config? := some "/etc/registrar.toml", verbose := false, logJson := false,
                            command := .sync {} false (some "/etc/gateways.json") }
    (readResources "/etc/gateways.json").runOn w =
        (.ok [{ id? := some "a1", tags := [("STAGE", some "dev"), ("team", none)] }, { id? := some "b2" }, {}], w) ∧
      ((ofInvocation (Host.offline []) i).finish badWorld).exitCode = 1 := by
  intro good bad w badWorld i
  have hfile : w.files.readText "/etc/gateways.json" = .ok (Json.compact good) := rfl
  have hparse : Json.parse? (Json.compact good) = some good := by unfold good; rfl
  have hbadFile : badWorld.files.readText "/etc/gateways.json" = .ok (Json.compact bad) := rfl
  have hbadParse : Json.parse? (Json.compact bad) = some bad := by unfold bad; rfl
  constructor
  · obtain ⟨hread, hlists, _⟩ := resources_all_or_nothing (Host.offline []) w "/etc/gateways.json" hfile
    refine (hread _).2 ((hlists _ hparse _).2 ⟨_, rfl, .cons (.table (by decide) ?_) <|
      .cons (.list (by decide) (by decide) ?_) <| .cons (.table (by decide) ?_) .nil⟩)
    · exact ⟨rfl, rfl, ⟨[("team", none), ("STAGE", some "dev")], rfl, by decide⟩, rfl⟩
    · exact ⟨rfl, rfl, ⟨[], rfl, rfl⟩, rfl⟩
    · exact ⟨rfl, rfl, ⟨[], rfl, rfl⟩, rfl⟩
  · obtain ⟨_, hlists, _, hfails⟩ := resources_all_or_nothing (Host.offline []) badWorld "/etc/gateways.json" hbadFile
    have hbadItem : ∀ r, ¬Describes (.table [("name", .integer 3)]) r := by
      rintro r (⟨_, htell⟩ | _)
      have hname := htell.name
      rcases r with ⟨_, _ | _, _, _⟩ <;> cases hname
    refine (hfails ?_ i {} false).1
    rintro ⟨rs, hrs⟩
    obtain ⟨items, hitems, htell⟩ := (hlists _ hbadParse rs).1 hrs
    rw [← Value.list.inj hitems] at htell
    obtain _ | ⟨_, _ | ⟨hsecond, _⟩⟩ := htell
    exact hbadItem _ hsecond

end Action
end GatewayRegistrar
