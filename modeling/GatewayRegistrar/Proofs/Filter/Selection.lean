import GatewayRegistrar.Proofs.Filter.Judging
import GatewayRegistrar.Proofs.Filter.Literal

/-!
# The algebra of selections

An expression matches a service when it can be used and its pattern is found in the value of the tag (`Matches`); this
is what decides whether it admits the service (`expressionAdmits_iff`). A service passes two lists of expressions when
it matches all inclusions and no exclusion (`Passes`), and a selection keeps the services that pass
(`selectServices_eq_filter`). All else follows from how passing depends on the lists: through their members only
(`Passes.mono`), and one stage after the other (`passes_append_iff`).
-/

namespace GatewayRegistrar

variable {e : String} {i : Identity} {services : List Identity}
  {inclusions exclusions inclusions' exclusions' : List String}

/-! ## One expression -/

/-- **The expression matches the service**: it can be read, its pattern can be worked out, and the service carries the
tag with a value in which the pattern is found. -/
def Matches (e : String) (i : Identity) : Prop :=
  ∃ f c v, Filter.ofText? e = .ok f ∧ f.compile = .ok c ∧ entryOf? f.tagKey i.tags = some v ∧
    c.pattern.matchesIn v = true

theorem filter_of_compile {f : Filter} {c : CompiledFilter} (h : f.compile = .ok c) : c.filter = f := by
  unfold Filter.compile at h
  split at h
  · cases h
    rfl
  · cases h

/-- A filter admits the services with a value in which its pattern is found. -/
theorem admits_compile_iff {f : Filter} {c : CompiledFilter} (h : f.compile = .ok c) :
    c.admits i = true ↔ ∃ v, entryOf? f.tagKey i.tags = some v ∧ c.pattern.matchesIn v = true := by
  rw [CompiledFilter.admits, filter_of_compile h, Option.any_eq_true]

/-- **An expression admits the services that it matches.** -/
theorem expressionAdmits_iff : expressionAdmits e i = true ↔ Matches e i := by
  by_cases husable : Usable e
  · obtain ⟨f, c, hf, hc⟩ := husable
    have hread : CompiledFilter.ofText? e = .ok c := ofText?_eq_ok_iff.2 ⟨f, hf, hc⟩
    have hadmits : expressionAdmits e i = c.admits i := by
      rw [expressionAdmits, Predicate.ofText, hread]
      rfl
    rw [hadmits, admits_compile_iff hc]
    constructor
    · rintro ⟨v, hv, hfound⟩
      exact ⟨f, c, v, hf, hc, hv, hfound⟩
    · rintro ⟨f', c', v, hf', hc', hv, hfound⟩
      obtain rfl : f = f' := by rw [hf] at hf'; exact Except.ok.inj hf'
      obtain rfl : c = c' := by rw [hc] at hc'; exact Except.ok.inj hc'
      exact ⟨v, hv, hfound⟩
  · rw [expressionAdmits_eq_false husable]
    constructor
    · intro h
      cases h
    · rintro ⟨f, c, _, hf, hc, _⟩
      exact absurd ⟨f, c, hf, hc⟩ husable

instance (e : String) (i : Identity) : Decidable (Matches e i) := decidable_of_iff _ expressionAdmits_iff

/-! ## Two lists of expressions -/

/-- **The service passes**: every inclusion matches it and no exclusion does. -/
def Passes (inclusions exclusions : List String) (i : Identity) : Prop :=
  (∀ e ∈ inclusions, Matches e i) ∧ ∀ e ∈ exclusions, ¬ Matches e i

instance (inclusions exclusions : List String) (i : Identity) : Decidable (Passes inclusions exclusions i) :=
  inferInstanceAs (Decidable (_ ∧ _))

/-- A service that passes more expressions passes some of them. -/
theorem Passes.mono (hi : inclusions ⊆ inclusions') (he : exclusions ⊆ exclusions')
    (h : Passes inclusions' exclusions' i) : Passes inclusions exclusions i := by
  obtain ⟨hall, hnone⟩ := h
  constructor
  · intro e hmem
    exact hall e (hi hmem)
  · intro e hmem
    exact hnone e (he hmem)

/-- To pass joined lists is to pass one pair of lists after the other. -/
theorem passes_append_iff {i₁ e₁ i₂ e₂ : List String} :
    Passes (i₁ ++ i₂) (e₁ ++ e₂) i ↔ Passes i₁ e₁ i ∧ Passes i₂ e₂ i := by
  simp only [Passes, List.forall_mem_append]
  exact and_and_and_comm

theorem admits_ofTexts_iff :
    (FilterSet.ofTexts inclusions exclusions).admits i = true ↔ Passes inclusions exclusions i := by
  have hincludes : (FilterSet.ofTexts inclusions exclusions).includes i = true ↔ ∀ e ∈ inclusions, Matches e i := by
    simp only [FilterSet.includes, FilterSet.ofTexts, List.all_map, List.all_eq_true]
    exact forall₂_congr fun _ _ => expressionAdmits_iff
  have hexcludes : (FilterSet.ofTexts inclusions exclusions).excludes i = false ↔ ∀ e ∈ exclusions, ¬ Matches e i := by
    simp only [FilterSet.excludes, FilterSet.ofTexts, List.any_map, List.any_eq_false]
    exact forall₂_congr fun _ _ => not_congr expressionAdmits_iff
  rw [FilterSet.admits, Bool.and_eq_true, Bool.not_eq_true', hincludes, hexcludes]
  rfl

/-! ## Selections -/

/-- **A selection keeps the services that pass**, each as often as it is listed, in their order. -/
theorem selectServices_eq_filter (services : List Identity) (inclusions exclusions : List String) :
    selectServices services inclusions exclusions = services.filter fun i => Passes inclusions exclusions i := by
  rw [selectServices, FilterSet.apply_eq_filter]
  refine List.filter_congr fun i _ => ?_
  rw [Bool.eq_iff_iff, decide_eq_true_iff]
  exact admits_ofTexts_iff

/-- More expressions keep a part of the services. -/
theorem selectServices_sublist (hi : inclusions ⊆ inclusions') (he : exclusions ⊆ exclusions') :
    (selectServices services inclusions' exclusions').Sublist (selectServices services inclusions exclusions) := by
  rw [selectServices_eq_filter, selectServices_eq_filter]
  apply List.monotone_filter_right
  intro i h
  rw [decide_eq_true_iff] at h ⊢
  exact h.mono hi he

/-- A selection goes by the members of its lists. -/
theorem selectServices_congr (hi : ∀ e, e ∈ inclusions ↔ e ∈ inclusions') (he : ∀ e, e ∈ exclusions ↔ e ∈ exclusions') :
    selectServices services inclusions exclusions = selectServices services inclusions' exclusions' :=
  (selectServices_sublist (fun e => (hi e).2) fun e => (he e).2).antisymm
    (selectServices_sublist (fun e => (hi e).1) fun e => (he e).1)

/-- One selection after the other is the selection by both. -/
theorem selectServices_selectServices (i₁ e₁ i₂ e₂ : List String) :
    selectServices (selectServices services i₁ e₁) i₂ e₂ = selectServices services (i₁ ++ i₂) (e₁ ++ e₂) := by
  simp only [selectServices_eq_filter, List.filter_filter]
  refine List.filter_congr fun i _ => ?_
  simp only [passes_append_iff, Bool.decide_and, Bool.and_comm]

/-- **The algebra of selections.** A selection keeps exactly the services that every inclusion matches and no exclusion
does, in their order and as often as they are listed. It goes by the two lists as sets: order and repetition do not
matter. More expressions in either list keep a sublist. Selecting twice is selecting once by the joined lists, so a
selection made again changes nothing, and two selections may be made in either order. -/
theorem selections_form_algebra (services : List Identity) :
    (∀ inclusions exclusions : List String,
      selectServices services inclusions exclusions =
        services.filter fun i => (∀ e ∈ inclusions, Matches e i) ∧ ∀ e ∈ exclusions, ¬ Matches e i) ∧
    (∀ inclusions inclusions' exclusions exclusions' : List String,
      (∀ e, e ∈ inclusions ↔ e ∈ inclusions') → (∀ e, e ∈ exclusions ↔ e ∈ exclusions') →
        selectServices services inclusions exclusions = selectServices services inclusions' exclusions') ∧
    (∀ inclusions inclusions' exclusions exclusions' : List String,
      inclusions ⊆ inclusions' → exclusions ⊆ exclusions' →
        (selectServices services inclusions' exclusions').Sublist (selectServices services inclusions exclusions)) ∧
    (∀ i₁ e₁ i₂ e₂ : List String,
      selectServices (selectServices services i₁ e₁) i₂ e₂ = selectServices services (i₁ ++ i₂) (e₁ ++ e₂)) ∧
    (∀ inclusions exclusions : List String,
      selectServices (selectServices services inclusions exclusions) inclusions exclusions =
        selectServices services inclusions exclusions) ∧
    ∀ i₁ e₁ i₂ e₂ : List String,
      selectServices (selectServices services i₁ e₁) i₂ e₂ = selectServices (selectServices services i₂ e₂) i₁ e₁ := by
  refine ⟨selectServices_eq_filter services, fun _ _ _ _ => selectServices_congr, fun _ _ _ _ => selectServices_sublist,
    selectServices_selectServices, ?_, ?_⟩
  · intro inclusions exclusions
    rw [selectServices_selectServices]
    exact selectServices_congr (by simp) (by simp)
  · intro i₁ e₁ i₂ e₂
    rw [selectServices_selectServices, selectServices_selectServices]
    exact selectServices_congr (by simp [or_comm]) (by simp [or_comm])

/-- Two services in the listing `orders, billing, orders`, and an expression that cannot be read: as an exclusion it
removes nothing, as an inclusion it leaves nothing. -/
theorem selections_of_orders :
    let orders : Identity := ⟨"a1", "orders", "eu-west-1", [("env", "prod")], []⟩
    let billing : Identity := ⟨"b2", "billing", "eu-west-1", [("env", "dev")], []⟩
    let services := [orders, billing, orders]
    let prod := Filter.written "env" "prod"
    (∀ e, e ∈ [prod, prod] ↔ e ∈ [prod]) ∧ (∀ e, e ∈ ["env"] ↔ e ∈ ["env", "env"]) ∧ [prod] ⊆ [prod, "env"] ∧
      [] ⊆ ["env"] ∧
      selectServices services [prod, prod] ["env"] = selectServices services [prod] ["env", "env"] ∧
      selectServices services [prod] ["env", "env"] = [orders, orders] ∧
      (selectServices services [prod, "env"] ["env"]).Sublist (selectServices services [prod] []) ∧
      selectServices services [prod, "env"] ["env"] = [] := by
  intro orders billing services prod
  have hprod : ∀ i, Matches prod i ↔ ∃ v, entryOf? "env" i.tags = some v ∧ "prod".toList <:+: v.toList := by
    intro i
    have hsigns : ∀ c ∈ "prod".toList, Pattern.IsPlainSign c := by simp [Pattern.IsPlainSign]
    have hfits := Pattern.ofText?_anchored_ne_tooLarge false false hsigns
      (by simp [Pattern.Blueprint.frameRoom, Pattern.stateRoom, Pattern.roomLimit])
    have hcomma : ',' ∉ "env".toList := by decide
    have hcolon : ':' ∉ "env".toList := by decide
    have hadmits := expressionAdmits_anchored_iff (i := i) false false hcomma hcolon hsigns hfits
    simp only [Pattern.matchesIn_infix_iff] at hadmits
    exact expressionAdmits_iff.symm.trans hadmits
  have horders : Matches prod orders := (hprod orders).2 ⟨"prod", rfl, by decide⟩
  have hbilling : ¬ Matches prod billing := by
    rw [hprod]
    rintro ⟨v, hv, hinfix⟩
    cases hv
    exact absurd hinfix (by decide)
  have huseless : ∀ i, ¬ Matches "env" i := by
    rintro i ⟨f, _, _, hf, _⟩
    cases hf
  have hsame : ∀ e, e ∈ [prod, prod] ↔ e ∈ [prod] := by simp
  have hsame' : ∀ e, e ∈ ["env"] ↔ e ∈ ["env", "env"] := by simp
  have hmore : [prod] ⊆ [prod, "env"] := by simp
  have hmore' : [] ⊆ ["env"] := by simp
  obtain ⟨hfilter, hcongr, hsublist, _⟩ := selections_form_algebra services
  refine ⟨hsame, hsame', hmore, hmore', hcongr _ _ _ _ hsame hsame', ?_, hsublist _ _ _ _ hmore hmore', ?_⟩
  · rw [hfilter]
    simp [services, horders, hbilling, huseless]
  · rw [hfilter]
    simp [huseless]

end GatewayRegistrar
