import GatewayRegistrar.Proofs.Template.Inclusions
import Mathlib.Data.List.Forall2

/-!
# Tags of a service

Tags are collected one by one, and one template without a result leaves all of them without one: there are tags exactly
where each template has a result (`isSome_render`), whatever the mode, and with more room there are the same
(`render_mono`).
-/

namespace GatewayRegistrar

/-! ## Results that are collected -/

section Collecting

variable {α β γ : Type} {f : α → Option β}

/-- The results of a list are those of its items. -/
theorem mapM_eq_some_iff {as : List α} {bs : List β} :
    as.mapM f = some bs ↔ List.Forall₂ (fun a b => f a = some b) as bs := by
  induction as generalizing bs with
  | nil =>
    rw [List.mapM_nil, List.forall₂_nil_left_iff]
    exact ⟨fun h => (Option.some.inj h).symm, fun h => h ▸ rfl⟩
  | cons a as ih =>
    rw [List.mapM_cons, List.forall₂_cons_left_iff]
    constructor
    · intro h
      obtain ⟨b, hb, h⟩ := Option.bind_eq_some_iff.1 h
      obtain ⟨bs, hbs, h⟩ := Option.bind_eq_some_iff.1 h
      exact ⟨b, bs, hb, ih.1 hbs, (Option.some.inj h).symm⟩
    · rintro ⟨b, bs, hb, hbs, rfl⟩
      rw [hb, ih.2 hbs]
      rfl

/-- A list has results exactly where each of its items has one. -/
theorem isSome_mapM (as : List α) : (as.mapM f).isSome = true ↔ ∀ a ∈ as, (f a).isSome = true := by
  rw [← List.all_eq_true]
  induction as with
  | nil => exact iff_of_true rfl rfl
  | cons a as ih =>
    rw [List.mapM_cons, List.all_cons, Bool.and_eq_true, ← ih]
    cases f a with
    | none => exact iff_of_false Bool.false_ne_true fun h => Bool.false_ne_true h.1
    | some b => cases as.mapM f <;> simp

/-- What becomes of each result becomes of all of them. -/
theorem mapM_map_result (g : β → γ) (as : List α) : as.mapM (fun a => (f a).map g) = (as.mapM f).map (·.map g) := by
  induction as with
  | nil => rfl
  | cons a as ih =>
    rw [List.mapM_cons, List.mapM_cons, ih]
    cases f a with
    | none => rfl
    | some b => cases as.mapM f <;> rfl

end Collecting

/-! ## Tags -/

variable {i : Identity} {templates : List String}

theorem isSome_renderTags (room : Nat) :
    (renderTags room templates i).isSome = true ↔ ∀ t ∈ templates, (renderTemplate room t i).isSome = true := by
  simp only [renderTags, isSome_mapM, Option.isSome_map]

/-- **There are tags where each template has a result.** -/
theorem isSome_render (m : TagMode) (room : Nat) :
    (m.render room templates i).isSome = true ↔ ∀ t ∈ templates, (renderTemplate room t i).isSome = true := by
  cases m with
  | strict => exact isSome_renderTags room
  | compact => exact (Bool.eq_iff_iff.1 (Option.isSome_map ..)).trans (isSome_renderTags room)

theorem renderTags_mono {room more : Nat} (hle : room ≤ more) {tags : List String}
    (h : renderTags room templates i = some tags) : renderTags more templates i = some tags := by
  rw [renderTags, mapM_eq_some_iff] at h ⊢
  refine h.imp fun t tag htag => ?_
  obtain ⟨r, hr, rfl⟩ := Option.map_eq_some_iff.1 htag
  exact Option.map_eq_some_iff.2 ⟨r, renderTemplate_mono hle hr, rfl⟩

/-- **With more room there are the same tags.** -/
theorem render_mono {room more : Nat} (hle : room ≤ more) {m : TagMode} {tags : List String}
    (h : m.render room templates i = some tags) : m.render more templates i = some tags := by
  cases m with
  | strict => exact renderTags_mono hle h
  | compact =>
    obtain ⟨all, hall, rfl⟩ := Option.map_eq_some_iff.1 h
    exact Option.map_eq_some_iff.2 ⟨all, renderTags_mono hle hall, rfl⟩

end GatewayRegistrar
