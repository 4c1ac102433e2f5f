import GatewayRegistrar.Filter.Set
import GatewayRegistrar.Proofs.Filter.Grammar
import GatewayRegistrar.Proofs.Pattern.Room

/-!
# Filters for plain texts

A filter with a plain text for its pattern looks for that text in the value of its tag: anywhere, or at the ends of the
value where the pattern has anchors (`expressionAdmits_anchored_iff`). A service without a value for the tag is admitted
by no filter that asks for this tag, whatever the pattern is (`expressionAdmits_of_missing`).
-/

namespace GatewayRegistrar

/-! ## Plain texts -/

namespace Pattern

/-- The signs of plain texts: ASCII letters and digits, and some signs that stand between them. -/
def IsPlainSign (c : Char) : Prop := c.isAlphanum = true ∨ c ∈ [' ', '-', '_', '/', ':']

/-- A plain text as a pattern, with or without an anchor at either side. -/
def anchored (atStart atEnd : Bool) (p : String) : String :=
  (if atStart then "^" else "") ++ p ++ (if atEnd then "$" else "")

/-- Plain signs are neither operators nor anchors, and do not separate the parts of filters. -/
theorem IsPlainSign.notMem {c : Char} (h : IsPlainSign c) : c ∉ ['^', '$', ',', '='] ++ operatorSigns := by
  have hsigns : ∀ c ∈ ['^', '$', ',', '='] ++ operatorSigns, ¬ IsPlainSign c := by simp [operatorSigns, IsPlainSign]
  exact fun hc => hsigns c hc h

section Anchored

variable {atStart atEnd : Bool} {p : String}

theorem mem_anchored {c : Char} (h : c ∈ (anchored atStart atEnd p).toList) : c ∈ p.toList ∨ c = '^' ∨ c = '$' := by
  cases atStart <;> cases atEnd <;> simp [anchored] at h <;> tauto

theorem length_anchored_le : (anchored atStart atEnd p).toList.length ≤ p.toList.length + 2 := by
  cases atStart <;> cases atEnd <;> simp [anchored]

theorem anchored_notMem_operatorSigns (hp : ∀ c ∈ p.toList, IsPlainSign c) :
    ∀ c ∈ (anchored atStart atEnd p).toList, c ∉ operatorSigns := fun c hc => by
  rcases mem_anchored hc with hc | rfl | rfl
  · exact fun hop => (hp c hc).notMem (List.mem_append_right _ hop)
  · decide
  · decide

theorem map_signNode_anchored (hp : ∀ c ∈ p.toList, IsPlainSign c) :
    (anchored atStart atEnd p).toList.map signNode = anchoredNodes atStart atEnd p.toList := by
  have hplain : p.toList.map signNode = p.toList.map fun c => .symbol (.singleton c) :=
    List.map_congr_left fun c hc => by
      have hnot := (hp c hc).notMem
      simp only [List.cons_append, List.mem_cons, not_or] at hnot
      rw [signNode, if_neg hnot.1, if_neg hnot.2.1]
  rw [anchoredNodes, ← hplain]
  cases atStart <;> cases atEnd <;> simp [anchored, signNode]

/-- **Plain texts are patterns**, unless they are too large. -/
theorem ofText?_anchored (hp : ∀ c ∈ p.toList, IsPlainSign c)
    (hsize : ofText? (anchored atStart atEnd p) ≠ .error .tooLarge) :
    ofText? (anchored atStart atEnd p) =
      .ok ⟨anchored atStart atEnd p, .concat (anchoredNodes atStart atEnd p.toList)⟩ := by
  rw [← map_signNode_anchored hp]
  exact ofText?_signs (anchored_notMem_operatorSigns hp) hsize

/-- Only very long texts are too large. -/
theorem ofText?_anchored_ne_tooLarge (atStart atEnd : Bool) (hp : ∀ c ∈ p.toList, IsPlainSign c)
    (hlength : Blueprint.frameRoom + 4 * stateRoom * (p.toList.length + 2) ≤ roomLimit) :
    ofText? (anchored atStart atEnd p) ≠ .error .tooLarge := by
  have hle : 4 * stateRoom * (anchored atStart atEnd p).toList.length ≤ 4 * stateRoom * (p.toList.length + 2) :=
    Nat.mul_le_mul_left _ length_anchored_le
  rw [ofText?_signs_of_short (anchored_notMem_operatorSigns hp) (by omega)]
  exact fun h => by cases h

end Anchored

end Pattern

/-! ## Filters -/

section Admitting

open Pattern

variable {key p pattern : String} {i : Identity}

/-- The key of a filter that is written in the usual way, whatever its pattern is. -/
theorem tagKey_of_written {f : Filter} (hcomma : ',' ∉ key.toList)
    (hf : Filter.ofText? (Filter.written key pattern) = .ok f) : f.tagKey = key := by
  have htext : (Filter.written key pattern).toList =
      ("Name=tag".toList ++ ':' :: key.toList) ++ ',' :: ("Values=".toList ++ pattern.toList) := by
    simp [Filter.written]
  have hname : ',' ∉ "Name=tag".toList ++ ':' :: key.toList := by simp [hcomma]
  rw [Filter.ofText?, Filter.split?_eq, htext, textBefore_append hname, textBehind_append (by decide)] at hf
  split at hf
  · rename_i _ _ hsplit
    split at hsplit
    · cases hsplit
      cases hf
      exact String.ofList_toList
    · cases hsplit
  · cases hf

/-- **A service without a value for the tag is not admitted**, whatever the pattern is. -/
theorem expressionAdmits_of_missing (hcomma : ',' ∉ key.toList) (hmissing : entryOf? key i.tags = none)
    (pattern : String) :
    expressionAdmits (Filter.written key pattern) i = false := by
  unfold expressionAdmits Predicate.ofText CompiledFilter.ofText?
  cases hf : Filter.ofText? (Filter.written key pattern) with
  | error fault => rfl
  | ok f =>
    have hkey := tagKey_of_written hcomma hf
    simp only [Except.bind, Filter.compile]
    cases Pattern.ofText? f.pattern with
    | error r => rfl
    | ok q => simp only [Predicate.admits, CompiledFilter.admits, hkey, hmissing, Option.any_none]

/-- **What a plain text admits**: the services in whose value for the tag it is found. -/
theorem expressionAdmits_anchored_iff (atStart atEnd : Bool) (hcomma : ',' ∉ key.toList) (hcolon : ':' ∉ key.toList)
    (hp : ∀ c ∈ p.toList, IsPlainSign c) (hsize : Pattern.ofText? (anchored atStart atEnd p) ≠ .error .tooLarge) :
    expressionAdmits (Filter.written key (anchored atStart atEnd p)) i = true ↔
      ∃ v, entryOf? key i.tags = some v ∧
        (Node.concat (anchoredNodes atStart atEnd p.toList)).matchesIn v = true := by
  have hnot : ∀ s ∈ [',', '='], s ∉ (anchored atStart atEnd p).toList := fun s hs hmem => by
    rcases mem_anchored hmem with hmem | rfl | rfl
    · refine (hp s hmem).notMem (List.mem_append_left _ ?_)
      exact List.mem_cons_of_mem _ (List.mem_cons_of_mem _ hs)
    · exact absurd hs (by decide)
    · exact absurd hs (by decide)
  have hf := Filter.ofText?_written hcomma hcolon (hnot ',' (by decide)) (hnot '=' (by decide))
  rw [expressionAdmits, Predicate.ofText, CompiledFilter.ofText?, hf, Except.bind, Filter.compile,
    ofText?_anchored hp hsize]
  simp only [Predicate.admits, CompiledFilter.admits, Pattern.matchesIn, Option.any_eq_true]

end Admitting

/-- **What filters for plain texts admit.** For a key without comma and colon and a text of plain signs that is not too
large as a pattern, the filter admits a service exactly when its value for the tag contains the text, or begins with it,
ends with it or is it when there is an anchor before the text, behind it or on both sides. A service without a value for
the tag is not admitted, whatever the pattern is, and only very long texts are too large. -/
theorem literal_filters (key p : String) (i : Identity) (hcomma : ',' ∉ key.toList) (hcolon : ':' ∉ key.toList)
    (hp : ∀ c ∈ p.toList, Pattern.IsPlainSign c) :
    (Pattern.ofText? p ≠ .error .tooLarge →
      (expressionAdmits (Filter.written key p) i = true ↔
        ∃ v, entryOf? key i.tags = some v ∧ p.toList <:+: v.toList)) ∧
    (Pattern.ofText? ("^" ++ p) ≠ .error .tooLarge →
      (expressionAdmits (Filter.written key ("^" ++ p)) i = true ↔
        ∃ v, entryOf? key i.tags = some v ∧ p.toList <+: v.toList)) ∧
    (Pattern.ofText? (p ++ "$") ≠ .error .tooLarge →
      (expressionAdmits (Filter.written key (p ++ "$")) i = true ↔
        ∃ v, entryOf? key i.tags = some v ∧ p.toList <:+ v.toList)) ∧
    (Pattern.ofText? ("^" ++ p ++ "$") ≠ .error .tooLarge →
      (expressionAdmits (Filter.written key ("^" ++ p ++ "$")) i = true ↔ entryOf? key i.tags = some p)) ∧
    (entryOf? key i.tags = none → ∀ pattern, expressionAdmits (Filter.written key pattern) i = false) ∧
    (Pattern.Blueprint.frameRoom + 4 * Pattern.stateRoom * (p.toList.length + 2) ≤ Pattern.roomLimit →
      ∀ pattern ∈ [p, "^" ++ p, p ++ "$", "^" ++ p ++ "$"], Pattern.ofText? pattern ≠ .error .tooLarge) := by
  have hplain : Pattern.anchored false false p = p := by simp [Pattern.anchored]
  have hstart : Pattern.anchored true false p = "^" ++ p := by simp [Pattern.anchored]
  have hend : Pattern.anchored false true p = p ++ "$" := by simp [Pattern.anchored]
  have hboth : Pattern.anchored true true p = "^" ++ p ++ "$" := rfl
  have hadmits (atStart atEnd : Bool) := expressionAdmits_anchored_iff (i := i) atStart atEnd hcomma hcolon hp
  refine ⟨fun hsize => ?_, fun hsize => ?_, fun hsize => ?_, fun hsize => ?_,
    expressionAdmits_of_missing hcomma, fun hlength pattern hpattern => ?_⟩
  · rw [← hplain] at hsize
    have hiff := hadmits false false hsize
    simp only [hplain, Pattern.matchesIn_infix_iff] at hiff
    exact hiff
  · rw [← hstart] at hsize ⊢
    simp only [hadmits true false hsize, Pattern.matchesIn_prefix_iff]
  · rw [← hend] at hsize ⊢
    simp only [hadmits false true hsize, Pattern.matchesIn_suffix_iff]
  · rw [← hboth] at hsize ⊢
    simp only [hadmits true true hsize, Pattern.matchesIn_whole_iff, String.toList_inj]
    exact ⟨fun ⟨v, hv, heq⟩ => heq ▸ hv, fun hv => ⟨p, hv, rfl⟩⟩
  · have hfits (atStart atEnd : Bool) := Pattern.ofText?_anchored_ne_tooLarge atStart atEnd hp hlength
    simp only [List.mem_cons, List.not_mem_nil, or_false] at hpattern
    rcases hpattern with h | h | h | h
    · rw [h, ← hplain]
      exact hfits false false
    · rw [h, ← hstart]
      exact hfits true false
    · rw [h, ← hend]
      exact hfits false true
    · rw [h, ← hboth]
      exact hfits true true

/-- A service of the platform team. -/
def platformOrders : Identity := ⟨"a1b2c3", "orders", "eu-west-1", [("team", "core/platform")], []⟩

/-- The value `core/platform` contains `platform` and ends with it, but does not begin with it. -/
theorem platform_filters :
    ',' ∉ "team".toList ∧ ':' ∉ "team".toList ∧ (∀ c ∈ "platform".toList, Pattern.IsPlainSign c) ∧
    expressionAdmits (Filter.written "team" "platform") platformOrders = true ∧
    ¬ expressionAdmits (Filter.written "team" ("^" ++ "platform")) platformOrders = true ∧
    expressionAdmits (Filter.written "team" ("platform" ++ "$")) platformOrders = true ∧
    ¬ expressionAdmits (Filter.written "team" ("^" ++ "platform" ++ "$")) platformOrders = true := by
  have hsigns : ∀ c ∈ "platform".toList, Pattern.IsPlainSign c := by simp [Pattern.IsPlainSign]
  obtain ⟨hplain, hstart, hend, hboth, _, hfits⟩ :=
    literal_filters "team" "platform" platformOrders (by decide) (by decide) hsigns
  have hsize := hfits (by simp [Pattern.Blueprint.frameRoom, Pattern.stateRoom, Pattern.roomLimit])
  simp only [List.forall_mem_cons] at hsize
  obtain ⟨hsize, hsize', hsize'', hsize''', _⟩ := hsize
  refine ⟨by decide, by decide, hsigns, ?_, ?_, ?_, ?_⟩
  · exact (hplain hsize).2 ⟨"core/platform", rfl, "core/".toList, [], by simp⟩
  · rw [hstart hsize']
    rintro ⟨v, hv, hprefix⟩
    cases hv
    exact absurd hprefix (by decide)
  · exact (hend hsize'').2 ⟨"core/platform", rfl, by decide⟩
  · rw [hboth hsize''']
    decide

end GatewayRegistrar
