import GatewayRegistrar.Proofs.Cycle.Fate
import GatewayRegistrar.Proofs.Host.Loading

/-!
# Judging filter expressions

An expression can be used when it can be read and its pattern can be worked out (`Usable`). The predicates of a
selection, the findings about a configuration and the command that checks an expression all go by this, and whatever
decides by an expression whether a service is admitted decides alike (`admits_eq_expressionAdmits`,
`expressionAdmits_eq_false`). So an inclusion that cannot be used empties every plan
(`plan_of_useless_inclusion`), and exclusions that cannot be used change none (`plan_usableExclusions`).
-/

namespace GatewayRegistrar

/-- The expression can be read, and its pattern can be worked out. -/
def Usable (expression : String) : Prop :=
  ∃ f c, Filter.ofText? expression = .ok f ∧ f.compile = .ok c

/-- What is reported of an expression in an entry of the configuration. -/
def uselessness? (path expression : String) : Option Finding :=
  match CompiledFilter.ofText? expression with
  | .ok _ => none
  | .error fault => some ⟨path, fault.message⟩

variable {e path : String}

theorem ofText?_eq_ok_iff {c : CompiledFilter} :
    CompiledFilter.ofText? e = .ok c ↔ ∃ f, Filter.ofText? e = .ok f ∧ f.compile = .ok c := by
  unfold CompiledFilter.ofText?
  cases Filter.ofText? e <;> simp [Except.bind]

theorem usable_iff : Usable e ↔ ∃ c, CompiledFilter.ofText? e = .ok c := by
  simp only [Usable, ofText?_eq_ok_iff]
  exact exists_comm

/-! ## Selections -/

theorem isValid_ofText_iff : (Predicate.ofText e).isValid = true ↔ Usable e := by
  rw [usable_iff, Predicate.ofText]
  cases CompiledFilter.ofText? e <;> simp [Predicate.isValid]

/-- A predicate that admits a service is valid. -/
theorem Predicate.isValid_and_admits (p : Predicate) (i : Identity) : (p.isValid && p.admits i) = p.admits i := by
  cases p <;> rfl

/-- An expression that cannot be used admits no service. -/
theorem expressionAdmits_eq_false (h : ¬ Usable e) (i : Identity) : expressionAdmits e i = false := by
  have hvalid : (Predicate.ofText e).isValid = false := by
    rwa [← isValid_ofText_iff, Bool.not_eq_true] at h
  rw [expressionAdmits, ← Predicate.isValid_and_admits, hvalid, Bool.false_and]

/-- A filter admits what its expression admits. -/
theorem admits_eq_expressionAdmits {f : Filter} (h : Filter.ofText? e = .ok f) (i : Identity) :
    f.admits i = expressionAdmits e i := by
  have hboth : CompiledFilter.ofText? e = f.compile := by rw [CompiledFilter.ofText?, h, Except.bind]
  rw [expressionAdmits, Predicate.ofText, hboth]
  delta Filter.admits
  cases f.compile <;> rfl

/-- The predicate of a selection at the place of an expression. -/
theorem getElem?_map_ofText {es : List String} {k : Nat} (h : es[k]? = some e) :
    (es.map Predicate.ofText)[k]? = some (.ofText e) := by
  rw [List.getElem?_map, h, Option.map_some]

/-- The command that checks an expression succeeds with those that can be used. -/
theorem runOn_checkFilter_iff {σ : Type} (w : World σ) :
    (∃ w', (Action.checkFilter e).runOn w = (.ok (), w')) ↔ Usable e := by
  simp only [Action.checkFilter, Action.runOn_bind, Action.runOn_orFail, Usable]
  cases Filter.ofText? e with
  | error fault => exact iff_of_false (fun ⟨_, h⟩ => by cases h) (fun ⟨_, _, h, _⟩ => by cases h)
  | ok f =>
    cases hcompile : f.compile with
    | error fault =>
      refine iff_of_false (fun ⟨_, h⟩ => ?_) (fun ⟨_, c, hf, hc⟩ => ?_)
      · simp only [Except.mapError, hcompile] at h
        cases h
      · cases hf
        rw [hcompile] at hc
        cases hc
    | ok c =>
      refine iff_of_true ?_ ⟨f, c, rfl, hcompile⟩
      simp only [Except.mapError, hcompile, Action.runOn_printLine]
      exact ⟨_, rfl⟩

/-! ## Configurations -/

theorem uselessness?_eq_none_iff : uselessness? path e = none ↔ Usable e := by
  rw [usable_iff, uselessness?]
  cases CompiledFilter.ofText? e <;> simp

theorem path_of_uselessness? {f : Finding} (h : uselessness? path e = some f) : f.path = path := by
  unfold uselessness? at h
  split at h
  · cases h
  · cases h
    rfl

/-- **What is reported of a configuration**: each filter that cannot be used, filters before exclusions, in order. -/
theorem uselessFilters_eq (c : Config) :
    c.uselessFilters = c.polling.filters.filterMap (uselessness? "sync.filters") ++
      c.polling.exclusions.filterMap (uselessness? "sync.exclusions") := by
  simp only [Config.uselessFilters, Config.filterExpressions, List.filterMap_append, List.filterMap_map]
  rfl

/-- A reported inclusion is one that cannot be used. -/
theorem exists_useless_inclusion {c : Config} {f : Finding} (hf : f ∈ c.uselessFilters)
    (hpath : f.path = "sync.filters") : ∃ e ∈ c.polling.filters, ¬ Usable e := by
  rw [uselessFilters_eq, List.mem_append, List.mem_filterMap, List.mem_filterMap] at hf
  rcases hf with ⟨e, he, hfound⟩ | ⟨e, _, hfound⟩
  · exact ⟨e, he, fun husable => by simp [uselessness?_eq_none_iff.2 husable] at hfound⟩
  · rw [path_of_uselessness? hfound] at hpath
    exact absurd hpath (by decide)

/-! ## Plans -/

/-- **An inclusion that cannot be used empties every plan.** -/
theorem plan_of_useless_inclusion {s : Settings} (he : e ∈ s.filters) (h : ¬ Usable e) (room : Nat)
    (rs : List Resource) : ∃ p, s.plan room rs = some p ∧ p.registrations = [] := by
  have hnone : ∀ i, s.selection.admits i = false := by
    intro i
    have hnot : ¬ (Predicate.ofText e).admits i = true := by
      rw [Bool.not_eq_true]
      exact expressionAdmits_eq_false h i
    have hincludes : s.selection.includes i = false := List.all_eq_false.2 ⟨.ofText e, List.mem_map_of_mem he, hnot⟩
    rw [FilterSet.admits, hincludes, Bool.false_and]
  have heligible : s.eligible rs = [] := by
    rw [s.eligible_eq_filter]
    exact List.filter_eq_nil_iff.2 fun i _ => by simp [hnone i]
  exact ⟨⟨[], s.planReport rs⟩, by rw [Settings.plan, heligible]; rfl, rfl⟩

/-- The exclusions that are not reported. -/
def usableExclusions (es : List String) : List String := es.filter fun e => (uselessness? "sync.exclusions" e).isNone

/-- Exclusions that cannot be used exclude no service. -/
theorem any_usableExclusions (es : List String) (i : Identity) :
    (usableExclusions es).any (expressionAdmits · i) = es.any (expressionAdmits · i) := by
  rw [usableExclusions, List.any_filter]
  congr 1
  funext e
  by_cases h : Usable e
  · simp [uselessness?_eq_none_iff.2 h]
  · simp [expressionAdmits_eq_false h]

/-- **Exclusions that cannot be used change no plan.** -/
theorem plan_usableExclusions (s : Settings) (room : Nat) (rs : List Resource) :
    { s with exclusions := usableExclusions s.exclusions }.plan room rs = s.plan room rs := by
  have hadmits : ∀ i, { s with exclusions := usableExclusions s.exclusions }.selection.admits i =
      s.selection.admits i := by
    intro i
    have hexcludes := any_usableExclusions s.exclusions i
    simp only [Settings.selection, FilterSet.admits, FilterSet.excludes, FilterSet.ofTexts, FilterSet.includes,
      List.any_map]
    congr 2
  have heligible : { s with exclusions := usableExclusions s.exclusions }.eligible rs = s.eligible rs := by
    rw [Settings.eligible_eq_filter, Settings.eligible_eq_filter]
    exact List.filter_congr fun i _ => hadmits i
  simp only [Settings.plan, Settings.planReport, heligible]
  rfl

/-! ## All judgements -/

/-- **All judgements of a filter expression agree.** The predicate for it in any place of any selection is valid, no
entry of a configuration is reported for it, and the command that checks it succeeds, exactly when it can be used. Any
such predicate, and the filter itself, admit the services that the expression admits, which are none when it cannot be
used. A configuration has a finding for each of its expressions that cannot be used, filters before exclusions; with a
finding about a filter it plans nothing, and without its exclusions that have findings it plans the same. -/
theorem filter_judgements_agree (e : String) (c : Config) :
    (∀ (inclusions exclusions : List String) (k : Nat), inclusions[k]? = some e →
      ∃ p, (FilterSet.ofTexts inclusions exclusions).inclusions[k]? = some p ∧ (p.isValid = true ↔ Usable e) ∧
        ∀ i, p.admits i = expressionAdmits e i) ∧
    (∀ (inclusions exclusions : List String) (k : Nat), exclusions[k]? = some e →
      ∃ p, (FilterSet.ofTexts inclusions exclusions).exclusions[k]? = some p ∧ (p.isValid = true ↔ Usable e) ∧
        ∀ i, p.admits i = expressionAdmits e i) ∧
    (∀ path, uselessness? path e = none ↔ Usable e) ∧
    (∀ (σ : Type) (w : World σ), (∃ w', (Action.checkFilter e).runOn w = (.ok (), w')) ↔ Usable e) ∧
    (∀ f, Filter.ofText? e = .ok f → ∀ i, f.admits i = expressionAdmits e i) ∧
    (¬ Usable e → ∀ i, expressionAdmits e i = false) ∧
    c.uselessFilters = c.polling.filters.filterMap (uselessness? "sync.filters") ++
      c.polling.exclusions.filterMap (uselessness? "sync.exclusions") ∧
    ∀ room rs,
      ((∃ f ∈ c.uselessFilters, f.path = "sync.filters") →
        ∃ p, c.settings.plan room rs = some p ∧ p.registrations = []) ∧
      { c with polling := { c.polling with
        exclusions := usableExclusions c.polling.exclusions } }.settings.plan room rs = c.settings.plan room rs := by
  refine ⟨fun inclusions exclusions k h => ?_, fun inclusions exclusions k h => ?_,
    fun path => uselessness?_eq_none_iff, fun σ w => runOn_checkFilter_iff w, fun f h => admits_eq_expressionAdmits h,
    expressionAdmits_eq_false, uselessFilters_eq c,
    fun room rs => ⟨?_, plan_usableExclusions c.settings room rs⟩⟩
  · exact ⟨_, getElem?_map_ofText h, isValid_ofText_iff, fun _ => rfl⟩
  · exact ⟨_, getElem?_map_ofText h, isValid_ofText_iff, fun _ => rfl⟩
  · rintro ⟨f, hf, hpath⟩
    obtain ⟨e, he, huseless⟩ := exists_useless_inclusion hf hpath
    exact plan_of_useless_inclusion (s := c.settings) he huseless room rs

end GatewayRegistrar
