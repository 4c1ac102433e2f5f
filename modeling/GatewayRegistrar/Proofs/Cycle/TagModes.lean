import GatewayRegistrar.Proofs.Cycle.Fate

/-!
# Strict and compact tags

A template is filled in with the text that it gives, or with the empty text when it has a fault (`FilledIn`). The strict
tags of a service are its templates filled in one by one (`renderTags_eq_some_iff`), the compact ones those among them
that are not empty. The mode decides nothing else about a plan, so the compact plan is the strict one without its empty
tags (`plan_compact`). A template without a result is not filled in, and takes the tags of the others with it
(`renderTags_endless`).
-/

namespace GatewayRegistrar

variable {i : Identity} {t : String} {fault : TemplateFault} {room : Nat} {ts us : List String}

/-! ## One template -/

/-- **How a template is filled in**: with the text that it gives for the service, or not at all. -/
inductive FilledIn (room : Nat) (i : Identity) : String → String → Prop
  | text {t tag : String} : renderTemplate room t i = some (.ok tag) → FilledIn room i t tag
  | fault {t : String} {f : TemplateFault} : renderTemplate room t i = some (.error f) → FilledIn room i t ""

theorem filledIn_iff {tag : String} :
    FilledIn room i t tag ↔ (renderTemplate room t i).map (·.toOption.getD "") = some tag := by
  rw [Option.map_eq_some_iff]
  constructor
  · intro h
    cases h with
    | text h => exact ⟨_, h, rfl⟩
    | fault h => exact ⟨_, h, rfl⟩
  · rintro ⟨r, h, rfl⟩
    cases r with
    | ok tag => exact .text h
    | error f => exact .fault h

/-! ## Lists of templates -/

/-- **The strict tags are the templates filled in**, each in its place. -/
theorem renderTags_eq_some_iff {tags : List String} :
    renderTags room ts i = some tags ↔ List.Forall₂ (FilledIn room i) ts tags := by
  have hfilled : FilledIn room i = fun t tag => (renderTemplate room t i).map (·.toOption.getD "") = some tag :=
    funext fun t => funext fun tag => propext filledIn_iff
  rw [hfilled]
  exact mapM_eq_some_iff

theorem length_of_renderTags {tags : List String} (h : renderTags room ts i = some tags) : tags.length = ts.length :=
  (renderTags_eq_some_iff.1 h).length_eq.symm

theorem renderTags_append (ts us : List String) :
    renderTags room (ts ++ us) i = (renderTags room ts i).bind fun as => (renderTags room us i).map (as ++ ·) := by
  rw [renderTags, List.mapM_append, ← renderTags, ← renderTags]
  show (renderTags room ts i).bind _ = _
  refine congrArg _ (funext fun as => ?_)
  cases renderTags room us i <;> rfl

theorem renderCompact_eq_filter (ts : List String) :
    renderCompact room ts i = (renderTags room ts i).map (·.filter (· ≠ "")) := by
  refine congrArg (Option.map · _) (funext fun tags => List.filter_congr fun tag _ => ?_)
  rw [Bool.eq_iff_iff]
  simp

theorem renderCompact_append (ts us : List String) :
    renderCompact room (ts ++ us) i =
      (renderCompact room ts i).bind fun as => (renderCompact room us i).map (as ++ ·) := by
  rw [renderCompact, renderTags_append, renderCompact, renderCompact]
  cases renderTags room ts i with
  | none => rfl
  | some as => cases renderTags room us i <;> simp

/-- A template with a fault is one empty tag. -/
theorem renderTags_of_error (h : renderTemplate room t i = some (.error fault)) (us : List String) :
    renderTags room (t :: us) i = (renderTags room us i).map ("" :: ·) := by
  rw [renderTags, List.mapM_cons, h, ← renderTags]
  cases renderTags room us i <;> rfl

theorem renderCompact_of_error (h : renderTemplate room t i = some (.error fault)) (us : List String) :
    renderCompact room (t :: us) i = renderCompact room us i := by
  rw [renderCompact, renderTags_of_error h, Option.map_map]
  rfl

/-- **A template that includes itself without end leaves no tags**, those of the other templates included. -/
theorem renderTags_endless (h : (Template.partsOfText? t).any Template.isEndless = true) (ht : t ∈ ts) :
    renderTags room ts i = none := by
  refine Option.not_isSome_iff_eq_none.1 fun hsome => ?_
  have hfilled := (isSome_renderTags room).1 hsome t ht
  rw [renderTemplate_endless room h] at hfilled
  cases hfilled

/-! ## Plans -/

/-- The registration without its empty tags. -/
def Registration.withoutEmptyTags (r : Registration) : Registration := { r with tags := r.tags.filter (· ≠ "") }

namespace Settings

variable (s : Settings)

/-- The same settings with another tag mode. -/
def inMode (m : TagMode) : Settings := { s with tagMode := m }

/-- The mode decides nothing about a registration but its tags. -/
theorem registrationFor?_compact (i : Identity) :
    (s.inMode .compact).registrationFor? room i =
      ((s.inMode .strict).registrationFor? room i).map Registration.withoutEmptyTags := by
  simp only [registrationFor?, inMode, TagMode.render, renderCompact_eq_filter, Option.map_map]
  rfl

/-- **The compact plan is the strict one without its empty tags.** -/
theorem plan_compact (rs : List Resource) :
    (s.inMode .compact).plan room rs = ((s.inMode .strict).plan room rs).map fun p =>
      { p with registrations := p.registrations.map Registration.withoutEmptyTags } := by
  have hcompact : (s.inMode .compact).registrationFor? room =
      fun i => ((s.inMode .strict).registrationFor? room i).map Registration.withoutEmptyTags :=
    funext s.registrationFor?_compact
  have heligible : (s.inMode .compact).eligible rs = (s.inMode .strict).eligible rs := rfl
  rw [plan, plan, hcompact, heligible, mapM_map_result, Option.map_map, Option.map_map]
  rfl

theorem length_tags_of_strict {rs : List Resource} {p : Plan} (h : (s.inMode .strict).plan room rs = some p)
    {r : Registration} (hr : r ∈ p.registrations) : r.tags.length = s.templates.length := by
  obtain ⟨i, _, hi⟩ := exists_of_mem_registrations h hr
  obtain ⟨tags, htags, rfl⟩ := Option.map_eq_some_iff.1 hi
  exact length_of_renderTags htags

/-- **Strict and compact tags.** For any templates and any service, there are tags exactly where each template has a
result. Then the strict tags are the templates filled in, one tag for each template in its place: the text that the
template gives, or the empty text when it has a fault. So joined lists of templates give joined lists of tags, and a
template with a fault leaves all other tags as they are. The compact tags are the strict ones that are not empty, in
their order. The plans of any resources in the two modes are there for the same resources, with the same report and the
same registrations but for the tags, which in the compact plan are those of the strict plan that are not empty; in the
strict plan there are as many as templates. -/
theorem tag_modes_differ_in_empty_tags (room : Nat) :
    (∀ (templates : List String) (i : Identity),
      ((∃ tags, renderTags room templates i = some tags) ↔
          ∀ t ∈ templates, ∃ filled, renderTemplate room t i = some filled) ∧
        (∀ tags, renderTags room templates i = some tags ↔ List.Forall₂ (FilledIn room i) templates tags) ∧
        (∀ tags, renderTags room templates i = some tags → tags.length = templates.length) ∧
        renderCompact room templates i = (renderTags room templates i).map (·.filter (· ≠ ""))) ∧
    (∀ (ts us : List String) (i : Identity),
      renderTags room (ts ++ us) i = (renderTags room ts i).bind (fun as => (renderTags room us i).map (as ++ ·)) ∧
        renderCompact room (ts ++ us) i =
          (renderCompact room ts i).bind fun as => (renderCompact room us i).map (as ++ ·)) ∧
    (∀ (ts us : List String) (t : String) (i : Identity) (fault : TemplateFault),
      renderTemplate room t i = some (.error fault) →
        renderTags room (ts ++ t :: us) i =
            (renderTags room ts i).bind (fun as => (renderTags room us i).map (as ++ "" :: ·)) ∧
          renderCompact room (ts ++ t :: us) i = renderCompact room (ts ++ us) i) ∧
    ∀ rs : List Resource,
      let strict := { s with tagMode := .strict }.plan room rs
      let compact := { s with tagMode := .compact }.plan room rs
      compact = strict.map (fun p =>
          { report := p.report
            registrations := p.registrations.map fun r => { r with tags := r.tags.filter (· ≠ "") } }) ∧
        ∀ p, strict = some p → ∀ r ∈ p.registrations, r.tags.length = s.templates.length := by
  refine ⟨fun templates i => ⟨?_, fun _ => renderTags_eq_some_iff, fun _ => length_of_renderTags,
      renderCompact_eq_filter templates⟩,
    fun ts us i => ⟨renderTags_append ts us, renderCompact_append ts us⟩, fun ts us t i fault h => ⟨?_, ?_⟩,
    fun rs => ⟨s.plan_compact rs, fun p hp r hr => s.length_tags_of_strict hp hr⟩⟩
  · simpa only [Option.isSome_iff_exists] using isSome_renderTags room
  · simp only [renderTags_append, renderTags_of_error h, Option.map_map]
    rfl
  · rw [renderCompact_append, renderCompact_of_error h, ← renderCompact_append]

/-- A template that gives a text, one with a fault, and one that gives the empty text. -/
theorem tag_modes_of_orders :
    let s : Settings := { (Config.standard "now").settings with templates := ["{{Name}}", "{{Tags.owner}}", ""] }
    let i : Identity := { id := "a1", rawName := "orders", region := s.region, tags := [], stageNames := [] }
    let fault : TemplateFault := .rendering ⟨.noValue (some "Tags.owner"), some ⟨1, 1⟩⟩
    renderTemplate 0 "{{Tags.owner}}" i = some (.error fault) ∧
      renderTags 0 (["{{Name}}"] ++ "{{Tags.owner}}" :: [""]) i =
        (renderTags 0 ["{{Name}}"] i).bind (fun as => (renderTags 0 [""] i).map (as ++ "" :: ·)) ∧
      renderTags 0 s.templates i = some ["orders", "", ""] ∧
      renderCompact 0 (["{{Name}}"] ++ "{{Tags.owner}}" :: [""]) i = renderCompact 0 (["{{Name}}"] ++ [""]) i ∧
      renderCompact 0 s.templates i = some ["orders"] := by
  intro s i fault
  have hfault : renderTemplate 0 "{{Tags.owner}}" i = some (.error fault) := by decide +kernel
  obtain ⟨hstrict, hcompact⟩ :=
    (tag_modes_differ_in_empty_tags s 0).2.2.1 ["{{Name}}"] [""] "{{Tags.owner}}" i fault hfault
  exact ⟨hfault, hstrict, by decide +kernel, hcompact, by decide +kernel⟩

/-- A template that gives a text beside one that includes itself without end: there are no tags, and no plan. -/
theorem no_tags_of_orders :
    let s : Settings := { (Config.standard "now").settings with templates := ["{{Name}}", endlessTemplate] }
    let i : Identity := { id := "a1", rawName := "orders", region := s.region, tags := [], stageNames := [] }
    ∀ room, renderTemplate room "{{Name}}" i = some (.ok "orders") ∧ renderTags room s.templates i = none ∧
      renderCompact room s.templates i = none ∧
      ∀ m, { s with tagMode := m }.plan room [.named "a1" "orders"] = none := by
  intro s i room
  have hname : renderTemplate room "{{Name}}" i = some (.ok "orders") :=
    renderTemplate_mono (Nat.zero_le room) (by decide +kernel)
  have hlast : endlessTemplate ∈ s.templates := List.mem_cons_of_mem _ List.mem_cons_self
  have htags : renderTags room s.templates i = none := renderTags_endless isEndless_endlessTemplate hlast
  have hkept : s.eligible [.named "a1" "orders"] ≠ [] := by decide
  exact ⟨hname, htags, congrArg (Option.map _) htags,
    fun m => plan_endless { s with tagMode := m } room hlast isEndless_endlessTemplate hkept⟩

end Settings

end GatewayRegistrar
