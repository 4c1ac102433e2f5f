import GatewayRegistrar.Text.Blank
import Mathlib.Data.List.TakeWhile

/-!
# Text between blanks

What is trimmed away is blank (`exists_trimBlanks`), and a text that begins and ends with characters that are not blank
is what is left of it, whatever blanks are put around it (`trimBlanks_append`).
-/

namespace GatewayRegistrar

/-- A digit is not blank. -/
theorem isBlank_of_isDigit {c : Char} (h : c.isDigit = true) : isBlank c = false := by
  simp only [Char.isDigit, Bool.and_eq_true, decide_eq_true_eq, ge_iff_le, UInt32.le_iff_toNat_le] at h
  have hlow : 48 ≤ c.toNat := h.1
  have hhigh : c.toNat ≤ 57 := h.2
  simp only [isBlank, Bool.or_eq_false_iff, Bool.and_eq_false_iff, decide_eq_false_iff_not, beq_eq_false_iff_ne]
  omega

/-- **What is trimmed away is blank.** -/
theorem exists_trimBlanks (cs : List Char) :
    ∃ front back, cs = front ++ trimBlanks cs ++ back ∧ (∀ c ∈ front, isBlank c = true) ∧
      ∀ c ∈ back, isBlank c = true := by
  have hblank : ∀ ds : List Char, ∀ c ∈ ds.takeWhile isBlank, isBlank c = true := by
    intro ds
    exact List.all_eq_true.1 (List.all_takeWhile ..)
  have hstart := List.takeWhile_append_dropWhile (p := isBlank) (l := cs)
  have hend := List.takeWhile_append_dropWhile (p := isBlank) (l := (cs.dropWhile isBlank).reverse)
  refine ⟨cs.takeWhile isBlank, ((cs.dropWhile isBlank).reverse.takeWhile isBlank).reverse, ?_, hblank cs, ?_⟩
  · rw [trimBlanks, List.append_assoc, ← List.reverse_append, hend, List.reverse_reverse, hstart]
  · intro c hc
    exact hblank _ c (List.mem_reverse.1 hc)

/-- Nothing is left where all is blank, and only there. -/
theorem trimBlanks_eq_nil_iff {cs : List Char} : trimBlanks cs = [] ↔ ∀ c ∈ cs, isBlank c = true := by
  constructor
  · intro hnone c hc
    obtain ⟨front, back, hcs, hfront, hback⟩ := exists_trimBlanks cs
    rw [hcs, hnone, List.append_nil] at hc
    exact (List.mem_append.1 hc).elim (hfront c) (hback c)
  · intro hall
    rw [trimBlanks, List.dropWhile_eq_nil_iff.2 hall]
    rfl

/-- Blanks in front of a text that does not begin with one. -/
theorem dropWhile_isBlank_append {front text : List Char} {c : Char} (hfront : ∀ c ∈ front, isBlank c = true)
    (hfirst : text.head? = some c) (hc : isBlank c = false) : (front ++ text).dropWhile isBlank = text := by
  rw [List.dropWhile_append_of_pos hfront]
  cases text with
  | nil => cases hfirst
  | cons d text =>
    cases hfirst
    exact List.dropWhile_cons_of_neg (by simp [hc])

/-- **A text between blanks.** -/
theorem trimBlanks_append {front text back : List Char} {c d : Char} (hfront : ∀ c ∈ front, isBlank c = true)
    (hback : ∀ c ∈ back, isBlank c = true) (hfirst : text.head? = some c) (hc : isBlank c = false)
    (hlast : text.getLast? = some d) (hd : isBlank d = false) : trimBlanks (front ++ text ++ back) = text := by
  have hstart : (front ++ text ++ back).dropWhile isBlank = text ++ back := by
    rw [List.append_assoc]
    refine dropWhile_isBlank_append hfront ?_ hc
    rw [List.head?_append, hfirst]
    rfl
  have hend : (back.reverse ++ text.reverse).dropWhile isBlank = text.reverse := by
    refine dropWhile_isBlank_append ?_ (by rwa [List.head?_reverse]) hd
    intro c hc
    exact hback c (List.mem_reverse.1 hc)
  rw [trimBlanks, hstart, List.reverse_append, hend, List.reverse_reverse]

end GatewayRegistrar
