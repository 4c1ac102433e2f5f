import GatewayRegistrar.Cycle.Plan
import GatewayRegistrar.Proofs.Template.Tags

/-!
# What becomes of a resource

A plan treats each resource for itself. `Settings.fate` says what becomes of one resource; registrations and counts of a
plan are read off the fates of the resources, in their order (`registrations_of_plan`, `report_of_plan`). Hence plans of
listings add up (`plan_append`), and a resource put in anywhere adds its own registration and nothing else
(`plan_insert`).

All this is said of plans that there are. There is one exactly where each template has a result for each service that
is kept (`isSome_plan`); so one service, or one template, can leave all others without a plan (`plan_endless`).
-/

namespace GatewayRegistrar

/-- What becomes of a resource: it has no identity, or the filters do not admit its service, or it is kept. -/
inductive Fate where
  | skipped (fault : IdentityFault)
  | filteredOut (i : Identity)
  | kept (i : Identity)
deriving DecidableEq, Repr

namespace Fate

/-- The service of a kept resource. -/
def kept? : Fate → Option Identity
  | kept i => some i
  | _ => none

/-- Whether the resource is kept. -/
def isKept (f : Fate) : Bool := f.kept?.isSome

/-- Whether the resource has no identity. -/
def isSkipped : Fate → Bool
  | skipped _ => true
  | _ => false

/-- Whether the filters do not admit the service. -/
def isFilteredOut : Fate → Bool
  | filteredOut _ => true
  | _ => false

end Fate

/-! ## Selections -/

/-- The two stages of a selection in one. -/
theorem FilterSet.apply_eq_filter (f : FilterSet) (services : List Identity) :
    f.apply services = services.filter f.admits := by
  simp only [FilterSet.apply, List.filter_filter]
  congr 1
  funext i
  exact Bool.and_comm _ _

namespace Settings

variable (s : Settings)

/-- The selection that the filters and exclusions describe. -/
def selection : FilterSet := .ofTexts s.filters s.exclusions

/-- What becomes of a resource, whatever else is listed. -/
def fate (r : Resource) : Fate :=
  match Identity.ofResource r s.region with
  | .error fault => .skipped fault
  | .ok i => if s.selection.admits i then .kept i else .filteredOut i

/-- The resources that are kept, in their order. -/
def registered (rs : List Resource) : List Resource := rs.filter (s.fate · |>.isKept)

/-- The registration of a kept resource, if its tags have a result. -/
def registration? (room : Nat) (r : Resource) : Option Registration := (s.fate r).kept?.bind (s.registrationFor? room)

/-! ## Fates -/

theorem fate_of_error {r : Resource} {fault : IdentityFault} (h : Identity.ofResource r s.region = .error fault) :
    s.fate r = .skipped fault := by
  simp [fate, h]

theorem fate_of_ok {r : Resource} {i : Identity} (h : Identity.ofResource r s.region = .ok i) :
    s.fate r = if s.selection.admits i then .kept i else .filteredOut i := by
  simp [fate, h]

/-- A resource is kept as a service when it has this identity and the filters admit it. -/
theorem kept?_fate {r : Resource} {i : Identity} :
    (s.fate r).kept? = some i ↔ Identity.ofResource r s.region = .ok i ∧ s.selection.admits i = true := by
  cases h : Identity.ofResource r s.region with
  | error fault => simp [s.fate_of_error h, Fate.kept?]
  | ok j =>
    rw [s.fate_of_ok h]
    cases ha : s.selection.admits j with
    | false =>
      constructor
      · intro hk
        cases hk
      · rintro ⟨hj, hadmits⟩
        cases hj
        rw [ha] at hadmits
        cases hadmits
    | true =>
      constructor
      · intro hk
        cases hk
        exact ⟨rfl, ha⟩
      · rintro ⟨hj, _⟩
        cases hj
        rfl

/-- A resource is skipped when it has no identity. -/
theorem isSkipped_fate (r : Resource) : (s.fate r).isSkipped = !(Identity.ofResource r s.region).isOk := by
  cases h : Identity.ofResource r s.region with
  | error fault => rw [s.fate_of_error h]; rfl
  | ok i =>
    rw [s.fate_of_ok h]
    split <;> rfl

/-- Each resource has one of the three fates. -/
theorem fates_partition (rs : List Resource) :
    rs.countP (s.fate · |>.isSkipped) + rs.countP (s.fate · |>.isFilteredOut) + rs.countP (s.fate · |>.isKept)
      = rs.length := by
  induction rs with
  | nil => rfl
  | cons r rs ih =>
    simp only [List.countP_cons, List.length_cons, ← ih]
    cases s.fate r <;> simp [Fate.isSkipped, Fate.isFilteredOut, Fate.isKept, Fate.kept?] <;> omega

/-! ## Plans -/

theorem eligible_eq_filter (rs : List Resource) : s.eligible rs = (s.services rs).filter s.selection.admits :=
  FilterSet.apply_eq_filter _ _

/-- What one more resource adds to the services. -/
theorem services_cons (r : Resource) (rs : List Resource) :
    s.services (r :: rs) = (Identity.ofResource r s.region).toOption.toList ++ s.services rs := by
  simp only [services, identities, List.map_cons, List.filterMap_cons]
  cases Identity.ofResource r s.region <;> rfl

/-- What one more resource adds to the services that are kept. -/
theorem eligible_cons (r : Resource) (rs : List Resource) :
    s.eligible (r :: rs) = (s.fate r).kept?.toList ++ s.eligible rs := by
  rw [eligible_eq_filter, services_cons, List.filter_append, ← eligible_eq_filter]
  congr 1
  cases h : Identity.ofResource r s.region with
  | error fault => rw [s.fate_of_error h]; rfl
  | ok i =>
    rw [s.fate_of_ok h]
    cases ha : s.selection.admits i <;> simp [Except.toOption, Fate.kept?, ha]

theorem eligible_eq_kept (rs : List Resource) : s.eligible rs = rs.filterMap (s.fate · |>.kept?) := by
  induction rs with
  | nil => rfl
  | cons r rs ih =>
    rw [eligible_cons, ih, List.filterMap_cons]
    cases (s.fate r).kept? <;> rfl

theorem planReport_eq (rs : List Resource) :
    s.planReport rs =
      { discovered := rs.length
        skipped := rs.countP (s.fate · |>.isSkipped)
        eligible := rs.countP (s.fate · |>.isKept) } := by
  have hskipped : (s.identities rs).countP (!·.isOk) = rs.countP (s.fate · |>.isSkipped) := by
    rw [identities, List.countP_map]
    congr 1
    funext r
    exact (s.isSkipped_fate r).symm
  have heligible : (s.eligible rs).length = rs.countP (s.fate · |>.isKept) := by
    rw [eligible_eq_kept, List.length_filterMap_eq_countP]
    rfl
  rw [planReport, hskipped, heligible]

section Results

variable {s} {room : Nat} {rs xs ys : List Resource} {p q : Plan}

/-- **What a plan is made of**: a registration for each service that is kept, and the report. -/
theorem plan_eq_some_iff :
    s.plan room rs = some p ↔
      List.Forall₂ (fun i r => s.registrationFor? room i = some r) (s.eligible rs) p.registrations ∧
        p.report = s.planReport rs := by
  rw [plan, Option.map_eq_some_iff]
  constructor
  · rintro ⟨registrations, h, rfl⟩
    exact ⟨mapM_eq_some_iff.1 h, rfl⟩
  · rintro ⟨h, hreport⟩
    exact ⟨p.registrations, mapM_eq_some_iff.2 h, by rw [← hreport]⟩

/-- **There is a plan** where each template has a result for each service that is kept. -/
theorem isSome_plan :
    (s.plan room rs).isSome = true ↔
      ∀ i ∈ s.eligible rs, ∀ t ∈ s.templates, (renderTemplate room t i).isSome = true := by
  simp only [plan, Option.isSome_map, isSome_mapM, registrationFor?, isSome_render]

/-- **With more room there is the same plan.** -/
theorem plan_mono {more : Nat} (hle : room ≤ more) (h : s.plan room rs = some p) : s.plan more rs = some p := by
  rw [plan_eq_some_iff] at h ⊢
  refine ⟨h.1.imp fun i r hr => ?_, h.2⟩
  obtain ⟨tags, htags, rfl⟩ := Option.map_eq_some_iff.1 hr
  exact Option.map_eq_some_iff.2 ⟨tags, render_mono hle htags, rfl⟩

/-- **The report of a plan**, by the fates of the resources. -/
theorem report_of_plan (h : s.plan room rs = some p) :
    p.report =
      { discovered := rs.length
        skipped := rs.countP (s.fate · |>.isSkipped)
        eligible := rs.countP (s.fate · |>.isKept) } := by
  rw [(plan_eq_some_iff.1 h).2, planReport_eq]

/-- The services that are kept are those of the kept resources. -/
theorem forall₂_registered_of_eligible {qs : List Registration}
    (h : List.Forall₂ (fun i q => s.registrationFor? room i = some q) (s.eligible rs) qs) :
    List.Forall₂ (fun r q => s.registration? room r = some q) (s.registered rs) qs := by
  induction rs generalizing qs with
  | nil =>
    obtain rfl := List.forall₂_nil_left_iff.1 h
    exact .nil
  | cons r rs ih =>
    rw [eligible_cons] at h
    simp only [registered, List.filter_cons, Fate.isKept] at ih ⊢
    cases hr : (s.fate r).kept? with
    | none => exact ih (by rwa [hr] at h)
    | some i =>
      rw [hr] at h
      obtain ⟨q, qs, hq, hqs, rfl⟩ := List.forall₂_cons_left_iff.1 h
      exact .cons (by rw [registration?, hr]; exact hq) (ih hqs)

/-- **Each registration is that of a kept resource**, in the order of the resources. -/
theorem forall₂_registered (h : s.plan room rs = some p) :
    List.Forall₂ (fun r q => s.registration? room r = some q) (s.registered rs) p.registrations :=
  forall₂_registered_of_eligible (plan_eq_some_iff.1 h).1

/-- The registrations of a plan are those of the services that are kept. -/
theorem registrations_eq_filterMap (h : s.plan room rs = some p) :
    p.registrations = (s.eligible rs).filterMap (s.registrationFor? room) := by
  obtain ⟨hall, _⟩ := plan_eq_some_iff.1 h
  generalize s.eligible rs = services at hall ⊢
  generalize p.registrations = registrations at hall ⊢
  induction hall with
  | nil => rfl
  | cons hq _ ih => rw [List.filterMap_cons_some hq, ← ih]

/-- Each registration of a plan is that of a service that is kept. -/
theorem exists_of_mem_registrations (h : s.plan room rs = some p) {r : Registration} (hr : r ∈ p.registrations) :
    ∃ i ∈ s.eligible rs, s.registrationFor? room i = some r := by
  rwa [registrations_eq_filterMap h, List.mem_filterMap] at hr

/-- The registrations of a plan are those of the resources that have one. -/
theorem registrations_of_plan (h : s.plan room rs = some p) :
    p.registrations = rs.filterMap (s.registration? room) := by
  rw [registrations_eq_filterMap h, eligible_eq_kept, List.filterMap_filterMap]
  rfl

/-- As many registrations as services that are kept. -/
theorem length_registrations_of_plan (h : s.plan room rs = some p) : p.registrations.length = p.report.eligible := by
  obtain ⟨hall, hreport⟩ := plan_eq_some_iff.1 h
  rw [← hall.length_eq, hreport]
  rfl

/-- The resources of a plan, by their fates. -/
theorem discovered_of_plan (h : s.plan room rs = some p) :
    p.report.discovered = p.report.skipped + rs.countP (s.fate · |>.isFilteredOut) + p.report.eligible := by
  rw [report_of_plan h]
  exact (s.fates_partition rs).symm

/-! ## Plans of joined listings -/

/-- There is a plan for two listings where there is one for each. -/
theorem isSome_plan_append :
    (s.plan room (xs ++ ys)).isSome = true ↔ (s.plan room xs).isSome = true ∧ (s.plan room ys).isSome = true := by
  simp only [isSome_plan, eligible_eq_kept, List.filterMap_append, List.mem_append, or_imp, forall_and]

/-- **Plans add up.** -/
theorem plan_append (hp : s.plan room xs = some p) (hq : s.plan room ys = some q) :
    ∃ pq, s.plan room (xs ++ ys) = some pq ∧ pq.registrations = p.registrations ++ q.registrations ∧
      pq.report.discovered = p.report.discovered + q.report.discovered ∧
      pq.report.skipped = p.report.skipped + q.report.skipped ∧
      pq.report.eligible = p.report.eligible + q.report.eligible := by
  obtain ⟨pq, hpq⟩ := Option.isSome_iff_exists.1
    (isSome_plan_append.2 ⟨Option.isSome_of_mem hp, Option.isSome_of_mem hq⟩)
  refine ⟨pq, hpq, ?_, ?_⟩
  · rw [registrations_of_plan hpq, registrations_of_plan hp, registrations_of_plan hq, List.filterMap_append]
  · simp only [report_of_plan hpq, report_of_plan hp, report_of_plan hq, List.length_append, List.countP_append,
      and_self]

/-- What a resource adds where it is put in: its own registration, if it has one. -/
theorem plan_insert {r : Resource} {pq : Plan} (hp : s.plan room xs = some p) (hq : s.plan room ys = some q)
    (hpq : s.plan room (xs ++ r :: ys) = some pq) :
    pq.registrations = p.registrations ++ ((s.registration? room r).toList ++ q.registrations) := by
  rw [registrations_of_plan hpq, registrations_of_plan hp, registrations_of_plan hq, List.filterMap_append,
    List.filterMap_cons]
  cases s.registration? room r <;> rfl

end Results

/-- The plan of one resource, by its fate. -/
theorem plan_singleton (room : Nat) (r : Resource) :
    (∃ fault, Identity.ofResource r s.region = .error fault ∧
        s.plan room [r] = some { registrations := [], report := { discovered := 1, skipped := 1 } }) ∨
      (∃ i, Identity.ofResource r s.region = .ok i ∧ s.selection.admits i = false ∧
        s.plan room [r] = some { registrations := [], report := { discovered := 1 } }) ∨
      ∃ i, Identity.ofResource r s.region = .ok i ∧ s.selection.admits i = true ∧
        s.plan room [r] = (s.registrationFor? room i).map fun q =>
          { registrations := [q], report := { discovered := 1, eligible := 1 } } := by
  cases h : Identity.ofResource r s.region with
  | error fault =>
    refine .inl ⟨fault, rfl, ?_⟩
    simp [plan, planReport_eq, eligible_eq_kept, s.fate_of_error h, Fate.kept?, Fate.isSkipped, Fate.isKept]
  | ok i =>
    refine .inr ?_
    cases ha : s.selection.admits i with
    | false =>
      refine .inl ⟨i, rfl, ha, ?_⟩
      simp [plan, planReport_eq, eligible_eq_kept, s.fate_of_ok h, ha, Fate.kept?, Fate.isSkipped, Fate.isKept]
    | true =>
      refine .inr ⟨i, rfl, ha, ?_⟩
      simp only [plan, planReport_eq, eligible_eq_kept, List.filterMap_cons, s.fate_of_ok h, ha]
      cases hq : s.registrationFor? room i <;> simp [Fate.kept?, Fate.isSkipped, Fate.isKept, hq, s.fate_of_ok h, ha]

/-! ## Isolation -/

/-- **A template that includes itself without end leaves no plan**, as soon as one service is kept. -/
theorem plan_endless (room : Nat) {t : String} (ht : t ∈ s.templates)
    (hendless : (Template.partsOfText? t).any Template.isEndless = true) {rs : List Resource}
    (hkept : s.eligible rs ≠ []) : s.plan room rs = none := by
  obtain ⟨i, hi⟩ := List.exists_mem_of_ne_nil _ hkept
  refine Option.not_isSome_iff_eq_none.1 fun hsome => ?_
  have hfilled := isSome_plan.1 hsome i hi t ht
  rw [renderTemplate_endless room hendless] at hfilled
  cases hfilled

/-- **Isolation.** There is a plan exactly where each template has a result for each service that is kept; so there is
one for every listing if no template includes anything, and with more room there is the same. Joined listings have a
plan where each of them has one, and then plans add up. Each resource has one of three fates, which does not depend on
the other resources. A resource that is put in leaves the registrations of the others and their order alone, as long as
there still is a plan. -/
theorem plan_isolates_resources (room : Nat) :
    (∀ rs : List Resource, (∃ p, s.plan room rs = some p) ↔
      ∀ i ∈ s.eligible rs, ∀ t ∈ s.templates, ∃ filled, renderTemplate room t i = some filled) ∧
    ((∀ t ∈ s.templates, IsInclusionFree t) → ∀ rs, ∃ p, s.plan room rs = some p) ∧
    (∀ (more : Nat) (rs : List Resource) (p : Plan),
      room ≤ more → s.plan room rs = some p → s.plan more rs = some p) ∧
    (∀ xs ys : List Resource,
      ((∃ pq, s.plan room (xs ++ ys) = some pq) ↔ (∃ p, s.plan room xs = some p) ∧ ∃ q, s.plan room ys = some q) ∧
      ∀ p q, s.plan room xs = some p → s.plan room ys = some q →
        ∃ pq, s.plan room (xs ++ ys) = some pq ∧ pq.registrations = p.registrations ++ q.registrations ∧
          pq.report.discovered = p.report.discovered + q.report.discovered ∧
          pq.report.skipped = p.report.skipped + q.report.skipped ∧
          pq.report.eligible = p.report.eligible + q.report.eligible) ∧
    (∀ r : Resource,
      (∃ fault, Identity.ofResource r s.region = .error fault ∧
          s.plan room [r] = some { registrations := [], report := { discovered := 1, skipped := 1 } }) ∨
        (∃ i, Identity.ofResource r s.region = .ok i ∧ s.selection.admits i = false ∧
          s.plan room [r] = some { registrations := [], report := { discovered := 1 } }) ∨
        ∃ i, Identity.ofResource r s.region = .ok i ∧ s.selection.admits i = true ∧
          s.plan room [r] = (s.registrationFor? room i).map fun q =>
            { registrations := [q], report := { discovered := 1, eligible := 1 } }) ∧
    (∀ (rs : List Resource) (p : Plan), s.plan room rs = some p →
      p.registrations = rs.filterMap (s.registration? room) ∧
      p.report.skipped = rs.countP (s.fate · |>.isSkipped) ∧
      p.report.eligible = rs.countP (s.fate · |>.isKept) ∧
      p.report.discovered = p.report.skipped + rs.countP (s.fate · |>.isFilteredOut) + p.report.eligible ∧
      p.report.eligible = p.registrations.length ∧
      p.report.eligible ≤ p.report.discovered - p.report.skipped) ∧
    ∀ (xs : List Resource) (r : Resource) (ys : List Resource) (p q pq : Plan),
      s.plan room xs = some p → s.plan room ys = some q → s.plan room (xs ++ r :: ys) = some pq →
        pq.registrations = p.registrations ++ ((s.registration? room r).toList ++ q.registrations) := by
  have hplan : ∀ rs, (∃ p, s.plan room rs = some p) ↔
      ∀ i ∈ s.eligible rs, ∀ t ∈ s.templates, ∃ filled, renderTemplate room t i = some filled := fun rs => by
    simpa only [Option.isSome_iff_exists] using s.isSome_plan
  refine ⟨hplan, fun hfree rs => ?_, fun _ _ _ => plan_mono, fun xs ys => ⟨?_, fun _ _ => plan_append⟩,
    s.plan_singleton room, fun rs p hp => ?_, fun _ _ _ _ _ _ => plan_insert⟩
  · exact (hplan rs).2 fun i _ t ht => Option.isSome_iff_exists.1 (renderTemplate_isSome room (hfree t ht) i)
  · simpa only [Option.isSome_iff_exists] using s.isSome_plan_append
  · have hreport := report_of_plan hp
    have hdiscovered := discovered_of_plan hp
    exact ⟨registrations_of_plan hp, by rw [hreport], by rw [hreport], hdiscovered,
      (length_registrations_of_plan hp).symm, by omega⟩

/-- Two gateways with a template that includes a body of its own: with room for one inclusion both are planned, and the
one put in before the other leaves it as it is. -/
theorem plan_of_orders_and_billing :
    let s : Settings := { (Config.standard "now").settings with templates := [bodyText "a" "{{Name}}" ++ "{{> a}}"] }
    let orders : Resource := .named "a1" "orders"
    let billing : Resource := .named "b2" "billing"
    ∃ p q pq, s.plan 1 [] = some p ∧ s.plan 1 [billing] = some q ∧ s.plan 1 [orders, billing] = some pq ∧
      q.registrations.map (·.tags) = [["billing"]] ∧ pq.registrations.map (·.tags) = [["orders"], ["billing"]] ∧
      pq.registrations = p.registrations ++ ((s.registration? 1 orders).toList ++ q.registrations) := by
  intro s orders billing
  have hone : (s.plan 1 [billing]).map (·.registrations.map (·.tags)) = some [["billing"]] := by decide +kernel
  have htwo : (s.plan 1 [orders, billing]).map (·.registrations.map (·.tags)) = some [["orders"], ["billing"]] := by
    decide +kernel
  obtain ⟨q, hq, hqtags⟩ := Option.map_eq_some_iff.1 hone
  obtain ⟨pq, hpq, hpqtags⟩ := Option.map_eq_some_iff.1 htwo
  obtain ⟨_, _, _, _, _, _, hinsert⟩ := s.plan_isolates_resources 1
  exact ⟨_, q, pq, rfl, hq, hpq, hqtags, hpqtags, hinsert [] orders [billing] _ q pq rfl hq hpq⟩

/-- A body that includes itself leaves a gateway without a plan, however much room there is. -/
theorem no_plan_of_orders :
    let s : Settings := { (Config.standard "now").settings with templates := [endlessTemplate] }
    ∀ room, s.plan room [] = some { registrations := [], report := {} } ∧
      s.plan room [.named "a1" "orders"] = none := by
  intro s room
  refine ⟨rfl, s.plan_endless room List.mem_cons_self isEndless_endlessTemplate ?_⟩
  decide

end Settings

end GatewayRegistrar
