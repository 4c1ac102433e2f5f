import GatewayRegistrar.Text.Sanitized

/-!
# The form of sanitized texts

A sanitized text holds letters, digits and single hyphens (`isHyphenated_sanitize`). The run that is open when a
character is written decides: while one is open its hyphen stands last, and no further hyphen follows
(`head?_hyphenateRuns`).
-/

namespace GatewayRegistrar

/-- ASCII letters, digits and hyphens, with no two hyphens in a row. -/
structure IsHyphenated (cs : List Char) : Prop where
  signs : ∀ c ∈ cs, c.isAlphanum = true ∨ c = '-'
  single : ¬ ['-', '-'] <:+: cs

theorem isHyphenated_nil : IsHyphenated [] := ⟨by simp, by simp⟩

/-- One more character in front, which must not be a second hyphen. -/
theorem IsHyphenated.cons {c : Char} {cs : List Char} (hc : c.isAlphanum = true ∨ c = '-' ∧ cs.head? ≠ some '-')
    (hcs : IsHyphenated cs) : IsHyphenated (c :: cs) := by
  refine ⟨List.forall_mem_cons.2 ⟨hc.imp_right And.left, hcs.signs⟩, fun hinfix => ?_⟩
  rcases List.infix_cons_iff.1 hinfix with hfront | hlater
  · obtain ⟨rest, hrest⟩ := hfront
    obtain ⟨rfl, rfl⟩ := List.cons.inj hrest
    rcases hc with hletter | ⟨_, hhead⟩
    · exact absurd hletter (by decide)
    · exact hhead rfl
  · exact hcs.single hlater

/-- While a run is open, no hyphen is written. -/
theorem head?_hyphenateRuns (cs : List Char) : (hyphenateRuns true cs).head? ≠ some '-' := by
  induction cs with
  | nil => simp
  | cons c cs ih =>
    unfold hyphenateRuns
    split
    · rename_i hletter
      rintro ⟨⟩
      exact absurd hletter (by decide)
    · exact ih

theorem isHyphenated_hyphenateRuns (inRun : Bool) (cs : List Char) : IsHyphenated (hyphenateRuns inRun cs) := by
  induction cs generalizing inRun with
  | nil => exact isHyphenated_nil
  | cons c cs ih =>
    unfold hyphenateRuns
    split
    · rename_i hletter
      exact (ih false).cons (.inl hletter)
    · split
      · exact ih true
      · exact (ih true).cons (.inr ⟨rfl, head?_hyphenateRuns cs⟩)

/-- **Sanitized texts hold letters, digits and single hyphens.** -/
theorem isHyphenated_sanitize (s : String) : IsHyphenated (sanitize s).toList := by
  rw [toList_sanitize]
  exact isHyphenated_hyphenateRuns false s.toList

end GatewayRegistrar
