import GatewayRegistrar.Proofs.Text.Sanitized
import Mathlib.Data.List.Forall2
import Mathlib.Data.List.Induction

/-!
# Gaps in sanitized texts

The letters and digits of a text leave gaps: before the first of them, between each two that follow one another, and
behind the last. A text is told by its letters and digits and by its gaps (`eq_of_gaps`). Sanitizing keeps the letters
and digits, and makes a hyphen of every gap with something in it (`gaps_hyphenateRuns`), so the sanitized text is the
only one that does so (`eq_sanitize_iff`). A text that is cut in two is sanitized part by part, save that a run which
the cut goes through has a single hyphen (`hyphenateRuns_append`).
-/

namespace GatewayRegistrar

variable {s t cs : List Char} {c : Char} {inRun : Bool}

/-! ## Texts with letters, digits and single hyphens -/

theorem IsHyphenated.of_cons (h : IsHyphenated (c :: cs)) :
    (c.isAlphanum = true ∨ c = '-' ∧ cs.head? ≠ some '-') ∧ IsHyphenated cs := by
  refine ⟨(h.signs c List.mem_cons_self).imp_right fun hc => ⟨hc, fun hhead => ?_⟩, ?_⟩
  · obtain ⟨rest, rfl⟩ := List.head?_eq_some_iff.1 hhead
    subst hc
    exact h.single ⟨[], rest, rfl⟩
  · exact ⟨fun x hx => h.signs x (List.mem_cons_of_mem c hx), fun hpair =>
      h.single (hpair.trans (List.suffix_cons c cs).isInfix)⟩

/-- What is no hyphen in such a text is a letter or a digit. -/
theorem IsHyphenated.filter_ne_hyphen (h : IsHyphenated t) : t.filter (· != '-') = t.filter Char.isAlphanum := by
  refine List.filter_congr fun c hc => ?_
  rcases h.signs c hc with hletter | rfl
  · have hne : c ≠ '-' := by
      rintro rfl
      exact absurd hletter (by decide)
    simp [hletter, hne]
  · decide

/-- Such a text stays as it is, unless it begins with the hyphen of a run that is open already. -/
theorem hyphenateRuns_of_isHyphenated (h : IsHyphenated t) (hopen : inRun = true → t.head? ≠ some '-') :
    hyphenateRuns inRun t = t := by
  induction t generalizing inRun with
  | nil => rfl
  | cons c cs ih =>
    obtain ⟨hc, hcs⟩ := h.of_cons
    unfold hyphenateRuns
    rcases hc with hletter | ⟨rfl, hhead⟩
    · rw [if_pos hletter, ih hcs (by simp)]
    · have hclosed : inRun = false := by
        cases inRun with
        | false => rfl
        | true => exact absurd rfl (hopen rfl)
      rw [if_neg (by decide), hclosed, if_neg (by simp), ih hcs fun _ => hhead]

/-! ## Gaps -/

/-- What stands before the first letter or digit, between each two that follow one another, and behind the last; the
whole text where there is none. -/
def gaps (cs : List Char) : List (List Char) := cs.splitOnP Char.isAlphanum

theorem gaps_nil : gaps [] = [[]] := List.splitOnP_nil

theorem gaps_cons_letter (hc : c.isAlphanum = true) (cs : List Char) : gaps (c :: cs) = [] :: gaps cs := by
  rw [gaps, List.splitOnP_cons_eq_if_modifyHead, if_pos hc]
  rfl

theorem gaps_cons_other (hc : c.isAlphanum = false) (cs : List Char) :
    gaps (c :: cs) = (gaps cs).modifyHead (c :: ·) := by
  rw [gaps, List.splitOnP_cons_eq_if_modifyHead, if_neg (by simp [hc])]
  rfl

theorem exists_gaps_eq_cons (cs : List Char) : ∃ g gs, gaps cs = g :: gs :=
  List.exists_cons_of_ne_nil (List.splitOnP_ne_nil _ cs)

/-- **A text is told by its letters and digits and by its gaps.** -/
theorem eq_of_gaps (hgaps : gaps s = gaps t) (hletters : s.filter Char.isAlphanum = t.filter Char.isAlphanum) :
    s = t := by
  unfold gaps at hgaps
  rw [← List.splitOnP_spec (p := Char.isAlphanum) s, hgaps, hletters, List.splitOnP_spec]

/-- What stands in a gap of a text stands in the text, and is neither letter nor digit. -/
theorem mem_of_mem_gaps {g : List Char} (hg : g ∈ gaps cs) (hc : c ∈ g) : c ∈ cs ∧ c.isAlphanum = false := by
  induction cs generalizing g with
  | nil =>
    rw [gaps_nil, List.mem_singleton] at hg
    simp [hg] at hc
  | cons x cs ih =>
    have hlater : ∀ {g}, g ∈ gaps cs → c ∈ g → c ∈ x :: cs ∧ c.isAlphanum = false :=
      fun hg hc => (ih hg hc).imp_left (List.mem_cons_of_mem x)
    cases hx : x.isAlphanum with
    | true =>
      rw [gaps_cons_letter hx] at hg
      rcases List.mem_cons.1 hg with rfl | hg
      · cases hc
      · exact hlater hg hc
    | false =>
      obtain ⟨first, rest, hcs⟩ := exists_gaps_eq_cons cs
      rw [gaps_cons_other hx, hcs, List.modifyHead_cons] at hg
      rcases List.mem_cons.1 hg with rfl | hg
      · rcases List.mem_cons.1 hc with rfl | hc
        · exact ⟨List.mem_cons_self, hx⟩
        · exact hlater (hcs ▸ List.mem_cons_self) hc
      · exact hlater (hcs ▸ List.mem_cons_of_mem first hg) hc

/-! ## What becomes of the gaps -/

/-- What is written into a gap: a hyphen, if anything stands there. -/
def gapMark (g : List Char) : List Char := if g = [] then [] else ['-']

theorem mem_gapMark_iff {g : List Char} : '-' ∈ gapMark g ↔ g ≠ [] := by
  unfold gapMark
  split <;> simp [*]

/-- Letters and digits stay. -/
theorem filter_hyphenateRuns (inRun : Bool) (cs : List Char) :
    (hyphenateRuns inRun cs).filter Char.isAlphanum = cs.filter Char.isAlphanum := by
  induction cs generalizing inRun with
  | nil => rfl
  | cons c cs ih =>
    unfold hyphenateRuns
    cases hc : c.isAlphanum with
    | true => simp [hc, ih]
    | false => cases inRun <;> simp [hc, ih, show '-'.isAlphanum = false by decide]

/-- **Every gap with something in it becomes a hyphen.** The hyphen of the first gap is left out if its run is open
already. -/
theorem gaps_hyphenateRuns (inRun : Bool) (cs : List Char) :
    gaps (hyphenateRuns inRun cs) =
      ((gaps cs).map gapMark).modifyHead fun mark => if inRun then [] else mark := by
  induction cs generalizing inRun with
  | nil => cases inRun <;> rfl
  | cons c cs ih =>
    obtain ⟨g, gs, hcs⟩ := exists_gaps_eq_cons cs
    unfold hyphenateRuns
    cases hc : c.isAlphanum with
    | true => simp [gaps_cons_letter hc, ih, hcs, gapMark]
    | false =>
      rw [gaps_cons_other hc]
      cases inRun with
      | true => simp [ih, hcs, gapMark]
      | false => simp [gaps_cons_other (show '-'.isAlphanum = false by decide), ih, hcs, gapMark]

/-- What sanitizing makes of a text: letters, digits and single hyphens, with the letters and digits of the text and a
hyphen wherever the text has something else in a gap. -/
structure Hyphenates (s t : List Char) : Prop where
  isHyphenated : IsHyphenated t
  letters : t.filter (· != '-') = s.filter Char.isAlphanum
  hyphens : List.Forall₂ (fun g h => '-' ∈ h ↔ g ≠ []) (gaps s) (gaps t)

/-- A gap is marked alike in the text and in what sanitizing makes of it. -/
theorem Hyphenates.map_gapMark_gaps (h : Hyphenates s t) : (gaps t).map gapMark = (gaps s).map gapMark := by
  have hboth : List.Forall₂ (fun g' g => g' ∈ gaps t ∧ ('-' ∈ g' ↔ g ≠ [])) (gaps t) (gaps s) :=
    (List.forall₂_and_left _ _).2 ⟨fun _ hg' => hg', h.hyphens.flip⟩
  rw [← List.forall₂_eq_eq_eq, List.forall₂_map_left_iff, List.forall₂_map_right_iff]
  refine hboth.imp ?_
  rintro g' g ⟨hg', hhyphen⟩
  have hempty : g' = [] ↔ g = [] := by
    refine ⟨fun hnone => ?_, fun hnone => ?_⟩
    · by_contra hne
      simpa [hnone] using hhyphen.2 hne
    · -- whatever stands in a gap of the sanitized text is a hyphen
      refine List.eq_nil_iff_forall_not_mem.2 fun c hc => ?_
      obtain ⟨hmem, hother⟩ := mem_of_mem_gaps hg' hc
      rcases h.isHyphenated.signs c hmem with hletter | rfl
      · simp [hletter] at hother
      · exact hhyphen.1 hc hnone
  simp [gapMark, hempty]

theorem hyphenates_hyphenateRuns (cs : List Char) : Hyphenates cs (hyphenateRuns false cs) where
  isHyphenated := isHyphenated_hyphenateRuns false cs
  letters := by
    rw [(isHyphenated_hyphenateRuns false cs).filter_ne_hyphen, filter_hyphenateRuns]
  hyphens := by
    obtain ⟨g, gs, hcs⟩ := exists_gaps_eq_cons cs
    have hgaps : gaps (hyphenateRuns false cs) = (gaps cs).map gapMark := by
      simp [gaps_hyphenateRuns, hcs]
    rw [hgaps, List.forall₂_map_right_iff, List.forall₂_same]
    exact fun _ _ => mem_gapMark_iff

/-- **There is no other such text.** -/
theorem Hyphenates.eq_hyphenateRuns (h : Hyphenates s t) : t = hyphenateRuns false s := by
  have hstays : hyphenateRuns false t = t := hyphenateRuns_of_isHyphenated h.isHyphenated (by simp)
  rw [← hstays]
  refine eq_of_gaps ?_ ?_
  · rw [gaps_hyphenateRuns, gaps_hyphenateRuns, h.map_gapMark_gaps]
  · rw [filter_hyphenateRuns, filter_hyphenateRuns, ← h.isHyphenated.filter_ne_hyphen, h.letters]

theorem eq_sanitize_iff {s t : String} : t = sanitize s ↔ Hyphenates s.toList t.toList := by
  constructor
  · rintro rfl
    rw [toList_sanitize]
    exact hyphenates_hyphenateRuns s.toList
  · intro h
    rw [← String.toList_inj, toList_sanitize]
    exact h.eq_hyphenateRuns

/-! ## Texts that are cut in two -/

/-- Whether a run is open behind the text. -/
def isOpenBehind (inRun : Bool) (cs : List Char) : Bool := cs.foldl (fun _ c => !c.isAlphanum) inRun

theorem isOpenBehind_concat (inRun : Bool) (cs : List Char) (c : Char) :
    isOpenBehind inRun (cs ++ [c]) = !c.isAlphanum := by
  simp [isOpenBehind]

/-- **A text that is cut in two is sanitized part by part**, the second with the run open that the first leaves open. -/
theorem hyphenateRuns_append (inRun : Bool) (s t : List Char) :
    hyphenateRuns inRun (s ++ t) = hyphenateRuns inRun s ++ hyphenateRuns (isOpenBehind inRun s) t := by
  induction s generalizing inRun with
  | nil => rfl
  | cons c s ih =>
    rw [List.cons_append, hyphenateRuns, hyphenateRuns, isOpenBehind, List.foldl_cons, ← isOpenBehind]
    cases hc : c.isAlphanum <;> cases inRun <;> simp [ih]

theorem isOpenBehind_iff : isOpenBehind false s = true ↔ ∃ c, s.getLast? = some c ∧ c.isAlphanum = false := by
  induction s using List.reverseRecOn with
  | nil => simp [isOpenBehind]
  | append_singleton s c => simp [isOpenBehind_concat]

/-- Behind a run that is open stands its hyphen. -/
theorem exists_hyphen_of_isOpenBehind (h : isOpenBehind false s = true) : ∃ u, hyphenateRuns false s = u ++ ['-'] := by
  induction s using List.reverseRecOn with
  | nil => cases h
  | append_singleton s c ih =>
    have hc : c.isAlphanum = false := by simpa [isOpenBehind_concat] using h
    rw [hyphenateRuns_append]
    cases hbefore : isOpenBehind false s with
    | false => exact ⟨hyphenateRuns false s, by simp [hyphenateRuns, hc]⟩
    | true =>
      obtain ⟨u, hu⟩ := ih hbefore
      exact ⟨u, by simp [hyphenateRuns, hc, hu]⟩

/-- A text that begins a run begins with its hyphen when it is sanitized. -/
theorem hyphenateRuns_of_begins (h : ∃ c, t.head? = some c ∧ c.isAlphanum = false) :
    hyphenateRuns false t = '-' :: hyphenateRuns true t := by
  obtain ⟨c, hhead, hc⟩ := h
  obtain ⟨rest, rfl⟩ := List.head?_eq_some_iff.1 hhead
  simp [hyphenateRuns, hc]

/-- A text that begins no run is sanitized alike, whether a run is open or not. -/
theorem hyphenateRuns_of_not_begins (h : ¬∃ c, t.head? = some c ∧ c.isAlphanum = false) :
    hyphenateRuns true t = hyphenateRuns false t := by
  cases t with
  | nil => rfl
  | cons c rest =>
    have hc : c.isAlphanum = true := by simpa using h
    simp [hyphenateRuns, hc]

/-- **What a sanitized text is.** It is the only text of letters, digits and single hyphens that has the letters and
digits of the original in their order, and a hyphen exactly in those of its gaps where the original has something else:
before the first of them, between two in succession, behind the last, or alone. A sanitized text stays as it is. Two
texts that are put together are sanitized one by one, except that the two hyphens at the seam become one where the
first text ends, and the second begins, with neither letter nor digit. -/
theorem sanitized_by_gaps :
    (∀ s t : String, t = sanitize s ↔ Hyphenates s.toList t.toList) ∧
    (∀ s : String, sanitize (sanitize s) = sanitize s) ∧
    ∀ a b : String,
      let meets := (∃ c, a.toList.getLast? = some c ∧ c.isAlphanum = false) ∧
        ∃ c, b.toList.head? = some c ∧ c.isAlphanum = false
      (meets ∧ ∃ u v, sanitize a = u ++ "-" ∧ sanitize b = "-" ++ v ∧ sanitize (a ++ b) = u ++ "-" ++ v) ∨
        (¬meets ∧ sanitize (a ++ b) = sanitize a ++ sanitize b) := by
  refine ⟨fun s t => eq_sanitize_iff, fun s => ?_, fun a b => ?_⟩
  · rw [← String.toList_inj, toList_sanitize]
    exact hyphenateRuns_of_isHyphenated (isHyphenated_sanitize s) (by simp)
  · intro meets
    simp only [← String.toList_inj, String.toList_append, toList_sanitize, hyphenateRuns_append]
    cases hopen : isOpenBehind false a.toList with
    | false =>
      refine .inr ⟨fun h => ?_, rfl⟩
      simp [isOpenBehind_iff.2 h.1] at hopen
    | true =>
      by_cases hbegins : ∃ c, b.toList.head? = some c ∧ c.isAlphanum = false
      · obtain ⟨u, hu⟩ := exists_hyphen_of_isOpenBehind hopen
        refine .inl ⟨⟨isOpenBehind_iff.1 hopen, hbegins⟩, String.ofList u,
          String.ofList (hyphenateRuns true b.toList), ?_, ?_, ?_⟩
        · simpa using hu
        · simpa using hyphenateRuns_of_begins hbegins
        · simp [hu]
      · exact .inr ⟨fun h => hbegins h.2, by rw [hyphenateRuns_of_not_begins hbegins]⟩

end GatewayRegistrar
