import GatewayRegistrar.Proofs.Value.Entries
import GatewayRegistrar.Template.Basic

/-!
# Inclusions and room

How much room there is for inclusions decides whether a template has a result, but not which: with more room it has the
same one (`renderTemplate_mono`). A template that includes nothing has a result without any room
(`renderTemplate_isSome`), and one whose body includes itself has none however much there is
(`renderTemplate_endless`).

The first two are read off one induction over the parts of a template (`Kept.renderParts`): whatever relation between
steps is kept by the ways in which steps are put together holds of whole templates where it holds of their inclusions.
-/

namespace GatewayRegistrar

namespace Template

/-! ## Parts with inclusions -/

mutual

/-- Whether filling in the part can come to an inclusion. A body that is only named is not filled in. -/
def Part.hasInclusion : Part → Bool
  | .inclusion .. => true
  | .block _ _ _ body inverse => hasInclusions body || inverseHasInclusions inverse
  | _ => false

/-- Whether one of the parts has an inclusion. -/
def hasInclusions : List Part → Bool
  | [] => false
  | part :: rest => part.hasInclusion || hasInclusions rest

/-- Whether one of the parts for the other case has an inclusion. -/
def inverseHasInclusions : Option (List Part) → Bool
  | none => false
  | some parts => hasInclusions parts

end

/-! ## Relations between steps -/

/-- A relation between steps of filling in. -/
abbrev StepRelation := {α : Type} → ExceptT Fault Option α → ExceptT Fault Option α → Prop

/-- **A relation that is kept** by the ways in which steps are put together: it holds of a step that has a result and of
the same step, and it goes on from one step to the next. -/
structure Kept (R : StepRelation) : Prop where
  refl : ∀ {α : Type} (r : Except Fault α), R (ExceptT.mk (some r)) (ExceptT.mk (some r))
  bind : ∀ {α β : Type} {a a' : ExceptT Fault Option α} {f f' : α → ExceptT Fault Option β},
    R a a' → (∀ x, R (f x) (f' x)) → R (a >>= f) (a' >>= f')
  adapt : ∀ {α : Type} {a a' : ExceptT Fault Option α} (h : Fault → Fault), R a a' → R (a.adapt h) (a'.adapt h)

namespace Kept

variable {R : StepRelation} (hR : Kept R)
include hR

theorem placed {α : Type} (place : Option Place) (x : Except FaultKind α) :
    R (Template.placed place x) (Template.placed place x) := by
  cases x <;> exact hR.refl _

theorem located (place : Option Place) {o o' : Outcome} (h : R o o') : R (located place o) (located place o') :=
  hR.adapt _ h

theorem withMargin (indents : Bool) (p : Progress) {fill fill' : Progress → Outcome} (h : ∀ p, R (fill p) (fill' p)) :
    R (withMargin indents p fill) (withMargin indents p fill') :=
  hR.bind (h _) fun _ => hR.refl _

theorem enclosed (e : Setting) (p : Progress) {fill fill' : Setting → Progress → Outcome}
    (h : ∀ e p, R (fill e p) (fill' e p)) : R (enclosed e p fill) (enclosed e p fill') :=
  hR.bind (h _ _) fun _ => hR.refl _

theorem foldlM {α : Type} {step step' : Progress → α → Outcome} (h : ∀ p a, R (step p a) (step' p a)) (as : List α)
    (p : Progress) : R (as.foldlM step p) (as.foldlM step' p) := by
  induction as generalizing p with
  | nil => exact hR.refl _
  | cons a as ih =>
    rw [List.foldlM_cons, List.foldlM_cons]
    exact hR.bind (h p a) fun p => ih p

variable {inclusions inclusions' : Inclusions}

mutual

/-- **What holds of the inclusions in a part holds of the part.** -/
theorem renderPart (e : Setting) (p : Progress) : ∀ part : Part,
    (part.hasInclusion = true → ∀ e t margin body p, R (inclusions e t margin body p) (inclusions' e t margin body p)) →
      R (Template.renderPart inclusions e p part) (Template.renderPart inclusions' e p part)
  | .text s, _ => hR.refl _
  | .comment, _ => hR.refl _
  | .expression place t, _ => by
    rw [Template.renderPart, Template.renderPart]
    exact hR.placed _ _
  | .directive place t body, _ => by
    rw [Template.renderPart, Template.renderPart]
    exact hR.placed _ _
  | .inclusion place t margin body, h => by
    rw [Template.renderPart, Template.renderPart]
    exact hR.located _ (h rfl e t margin body p)
  | .block place t margin body inverse, h => by
    have hbody := fun e p => renderParts e p body fun hb => h (by simp [Part.hasInclusion, hb])
    have hinverse := fun p => renderInverse e p inverse fun hi => h (by simp [Part.hasInclusion, hi])
    rw [Template.renderPart, Template.renderPart]
    refine hR.located _ (hR.withMargin _ _ fun p => hR.bind (hR.placed _ _) fun i => ?_)
    split
    · exact hR.refl _
    · refine hR.bind (hR.placed _ _) fun b => ?_
      cases b
      · exact hinverse p
      · exact hbody e p
    · refine hR.bind (hR.placed _ _) fun b => ?_
      cases b
      · exact hbody e p
      · exact hinverse p
    · refine hR.bind (hR.placed _ _) fun o => ?_
      split
      · exact hR.refl _
      · exact hR.enclosed _ _ fun e p => hR.foldlM (fun p s => hbody _ p) _ p
      · exact hinverse p
      · exact hR.refl _
    · refine hR.bind (hR.placed _ _) fun o => ?_
      split
      · exact hR.enclosed _ _ fun e p => hbody _ p
      · split
        · exact hinverse p
        · exact hR.refl _
    · exact hbody e p
    · exact hR.bind (hR.placed _ _) fun _ => hR.refl _
    · refine hR.bind (hR.placed _ _) fun v => ?_
      split
      · split
        · exact hbody e p
        · exact hinverse p
      · exact hR.refl _

/-- **What holds of the inclusions in parts holds of the parts.** -/
theorem renderParts (e : Setting) (p : Progress) : ∀ parts : List Part,
    (hasInclusions parts = true →
        ∀ e t margin body p, R (inclusions e t margin body p) (inclusions' e t margin body p)) →
      R (Template.renderParts inclusions e p parts) (Template.renderParts inclusions' e p parts)
  | [], _ => hR.refl _
  | part :: rest, h => by
    rw [Template.renderParts, Template.renderParts]
    exact hR.bind (renderPart e p part fun hp => h (by simp [hasInclusions, hp])) fun p =>
      renderParts e p rest fun hr => h (by simp [hasInclusions, hr])

theorem renderInverse (e : Setting) (p : Progress) : ∀ parts : Option (List Part),
    (inverseHasInclusions parts = true → ∀ e t margin body p,
        R (inclusions e t margin body p) (inclusions' e t margin body p)) →
      R (Template.renderInverse inclusions e p parts) (Template.renderInverse inclusions' e p parts)
  | none, _ => hR.refl _
  | some parts, h => by
    rw [Template.renderInverse, Template.renderInverse]
    exact renderParts e p parts h

end

/-- What holds of the inclusions in an inclusion holds of the inclusion. -/
theorem includeWith (h : ∀ e t margin body p, R (inclusions e t margin body p) (inclusions' e t margin body p))
    (e : Setting) (t : Tag) (margin : Margin) (body : Option (List Part)) (p : Progress) :
    R (includeWith inclusions e t margin body p) (includeWith inclusions' e t margin body p) := by
  have hname : ∀ e p, R (nameBody inclusions e body p) (nameBody inclusions' e body p) := fun e p => by
    cases body with
    | none => exact hR.refl _
    | some parts => exact hR.bind (hR.renderParts _ _ parts fun _ => h) fun _ => hR.refl _
  refine hR.bind (hR.placed _ _) fun i => hR.bind (hR.placed _ _) fun parts => hR.bind (hR.placed _ _) fun s => ?_
  exact hR.withMargin _ _ fun p => hR.enclosed _ _ fun e p => hR.bind (hname _ _) fun p =>
    hR.renderParts _ _ parts fun _ => h

end Kept

/-! ## More room -/

/-- What has a result has the same one in the other step. -/
def Refines : StepRelation := fun a a' => a.run = none ∨ a.run = a'.run

theorem kept_refines : Kept Refines where
  refl _ := .inr rfl
  bind := by
    intro α β a a' f f' ha hf
    rcases ha with ha | ha
    · exact .inl (congrArg (Option.bind · _) ha)
    · obtain rfl : a = a' := ha
      rcases a with _ | _ | x
      · exact .inl rfl
      · exact .inr rfl
      · exact hf x
  adapt _ ha := ha.imp (congrArg (Option.map _)) (congrArg (Option.map _))

/-- One more inclusion that fits into the others changes no result. -/
theorem refines_upTo_succ (n : Nat) (e : Setting) (t : Tag) (margin : Margin) (body : Option (List Part))
    (p : Progress) : Refines (Inclusions.upTo n e t margin body p) (Inclusions.upTo (n + 1) e t margin body p) := by
  induction n generalizing e t margin body p with
  | zero => exact .inl rfl
  | succ n ih => exact kept_refines.includeWith ih e t margin body p

theorem renderText_succ {n : Nat} {parts : List Part} {root : Value} {r : Except Fault String}
    (h : renderText n parts root = some r) : renderText (n + 1) parts root = some r := by
  have hparts := fun e p => kept_refines.renderParts e p parts fun _ => refines_upTo_succ n
  have htext : Refines (renderText n parts root) (renderText (n + 1) parts root) :=
    kept_refines.bind (hparts _ _) fun _ => kept_refines.refl _
  rcases htext with hnone | hsame
  · exact absurd (hnone.symm.trans h) nofun
  · exact hsame.symm.trans h

/-! ## No inclusions -/

/-- The first of two steps has a result. -/
def HasResult : StepRelation := fun a _ => a.run.isSome = true

theorem kept_hasResult : Kept HasResult where
  refl _ := rfl
  bind := by
    intro α β a a' f f' ha hf
    rcases a with _ | _ | x
    · cases ha
    · rfl
    · exact hf x
  adapt h ha := (Option.isSome_map ..).trans ha

theorem renderText_isSome (room : Nat) {parts : List Part} (h : hasInclusions parts = false) (root : Value) :
    (renderText room parts root).isSome = true := by
  have hparts : ∀ e p, HasResult (renderParts (.upTo room) e p parts) (renderParts (.upTo room) e p parts) :=
    fun e p => kept_hasResult.renderParts e p parts fun hp => absurd (hp.symm.trans h) nofun
  exact kept_hasResult.bind (hparts _ _) fun _ => kept_hasResult.refl _

/-! ## A body that includes itself -/

/-- **No room is enough for a body that includes itself.** -/
theorem upTo_self (room : Nat) {name : String} {place : Place} {margin : Margin} {e : Setting} {p : Progress}
    (h : entryOf? name (p.named ++ e.bodies) = some [.inclusion place ⟨.name name, [], [], []⟩ margin none])
    (outer : Margin) : Inclusions.upTo room e ⟨.name name, [], [], []⟩ outer none p = none := by
  induction room generalizing e p outer with
  | zero => rfl
  | succ room ih =>
    have hparts : includedParts e name none p = .ok [.inclusion place ⟨.name name, [], [], []⟩ margin none] := by
      rw [includedParts, h]
      rfl
    -- inside, the same body is there, and the inclusion in it has no result
    have hinside : ∀ (s : Scope) (indentation : String) (output : Output),
        renderParts (.upTo room) { e with bodies := p.named ++ e.bodies, scopes := s :: e.scopes, indentation }
          { output, named := [] } [.inclusion place ⟨.name name, [], [], []⟩ margin none] = none :=
      fun s indentation output => by
        rw [renderParts, renderPart, ih]
        · rfl
        · exact h
    show (placed none (includedParts e name none p) >>= _) = _
    rw [hparts]
    exact congrArg (Option.bind · _) (congrArg (Option.bind · _) (hinside _ _ _))

/-- The parts of a template that names a body and includes it, where the body does nothing but include itself. -/
def isEndless : List Part → Bool
  | [.directive _ ⟨.name "inline", [.literal (.text name)], [], []⟩
        (some [.inclusion _ ⟨.name inner, [], [], []⟩ _ none]),
      .inclusion _ ⟨.name outer, [], [], []⟩ _ none] => name == inner && name == outer
  | _ => false

theorem renderText_endless (room : Nat) {parts : List Part} (h : isEndless parts = true) (root : Value) :
    renderText room parts root = none := by
  unfold isEndless at h
  split at h
  · rename_i here name place inner margin there outer margin'
    obtain ⟨hinner, houter⟩ := Bool.and_eq_true_iff.1 h
    obtain rfl := beq_iff_eq.1 hinner
    obtain rfl := beq_iff_eq.1 houter
    let self : Part := .inclusion place ⟨.name name, [], [], []⟩ margin none
    have houtside : ∀ e p, entryOf? name (p.named ++ e.bodies) = some [self] →
        renderParts (.upTo room) e p [.inclusion there ⟨.name name, [], [], []⟩ margin' none] = none :=
      fun e p hbody => by
        rw [renderParts, renderPart, upTo_self room hbody]
        rfl
    show (renderParts (.upTo room) _ ⟨{}, [(name, [self])]⟩ _ >>= _) = none
    exact congrArg (Option.bind · _) (houtside _ _ (entryOf?_cons_self ..))
  · cases h

end Template

/-! ## Templates -/

open Template

variable {i : Identity} {t : String}

/-- **With more room a template has the same result.** -/
theorem renderTemplate_mono {room more : Nat} (hle : room ≤ more) {r : Except TemplateFault String}
    (h : renderTemplate room t i = some r) : renderTemplate more t i = some r := by
  induction hle with
  | refl => exact h
  | step _ ih =>
    unfold renderTemplate at ih ⊢
    cases hparts : partsOfText? t with
    | none => rwa [hparts] at ih
    | some parts =>
      rw [hparts] at ih
      obtain ⟨done, hdone, hr⟩ := Option.map_eq_some_iff.1 ih
      exact Option.map_eq_some_iff.2 ⟨done, renderText_succ hdone, hr⟩

/-- A template that includes nothing. -/
def IsInclusionFree (t : String) : Prop := ∀ parts, partsOfText? t = some parts → hasInclusions parts = false

/-- **A template that includes nothing has a result** without any room. -/
theorem renderTemplate_isSome (room : Nat) (h : IsInclusionFree t) (i : Identity) :
    (renderTemplate room t i).isSome = true := by
  unfold renderTemplate
  cases hparts : partsOfText? t with
  | none => rfl
  | some parts => exact (Option.isSome_map ..).trans (renderText_isSome room (h parts hparts) _)

/-- **A template that includes itself without end has no result**, however much room there is. -/
theorem renderTemplate_endless (room : Nat) (h : (partsOfText? t).any isEndless = true) (i : Identity) :
    renderTemplate room t i = none := by
  unfold renderTemplate
  cases hparts : partsOfText? t with
  | none =>
    rw [hparts] at h
    cases h
  | some parts =>
    rw [hparts] at h
    exact congrArg (Option.map _) (renderText_endless room h _)

/-- The text that names a body. -/
def bodyText (name body : String) : String := "\x7b\x7b#*inline \"" ++ name ++ "\"\x7d\x7d" ++ body ++ "{{/inline}}"

/-- A template that includes itself without end. -/
def endlessTemplate : String := bodyText "a" "{{> a}}" ++ "{{> a}}"

theorem isEndless_endlessTemplate : (partsOfText? endlessTemplate).any isEndless = true := by
  decide +kernel

end GatewayRegistrar
