import GatewayRegistrar.Text.Cut
import Mathlib.Data.List.TakeWhile

/-!
# Pieces and separators

Pieces are read off one after the other: what stands before a separator is the next piece (`piecesAt_append`), and what
holds none is the last (`piecesAt_of_notMem`). So a text has two sides around a separator when it holds that separator
once, and these are what stands before its first occurrence and what stands behind it (`splitOnce?_eq`).
-/

namespace GatewayRegistrar

variable {sep : Char} {cs before behind : List Char}

/-- What stands before the first `sep`; everything when there is none. -/
def textBefore (sep : Char) (cs : List Char) : List Char := cs.takeWhile (· != sep)

/-- What stands behind the first `sep`; nothing when there is none. -/
def textBehind (sep : Char) (cs : List Char) : List Char := (cs.dropWhile (· != sep)).tail

/-! ## Pieces -/

theorem piecesAt_of_notMem (h : sep ∉ cs) : piecesAt sep cs = [cs] := by
  induction cs with
  | nil => rfl
  | cons c cs ih =>
    obtain ⟨hc, hcs⟩ := List.ne_and_not_mem_of_not_mem_cons h
    rw [piecesAt, if_neg hc.symm, ih hcs]

theorem piecesAt_append (h : sep ∉ before) :
    piecesAt sep (before ++ sep :: behind) = before :: piecesAt sep behind := by
  induction before with
  | nil => rw [List.nil_append, piecesAt, if_pos rfl]
  | cons c cs ih =>
    obtain ⟨hc, hcs⟩ := List.ne_and_not_mem_of_not_mem_cons h
    rw [List.cons_append, piecesAt, if_neg hc.symm, ih hcs]

/-- One piece more than separators. -/
theorem length_piecesAt (sep : Char) (cs : List Char) : (piecesAt sep cs).length = cs.count sep + 1 := by
  induction cs with
  | nil => rfl
  | cons c cs ih =>
    rw [piecesAt, List.count_cons]
    by_cases hc : c = sep
    · rw [if_pos hc, List.length_cons, ih, if_pos (beq_iff_eq.2 hc)]
    · rw [if_neg hc, if_neg (by simpa using hc), Nat.add_zero, ← ih]
      cases hpieces : piecesAt sep cs with
      | nil =>
        rw [hpieces] at ih
        cases ih
      | cons piece rest => rfl

/-! ## Two sides -/

theorem textBefore_append (h : sep ∉ before) : textBefore sep (before ++ sep :: behind) = before := by
  have hall : ∀ c ∈ before, (c != sep) = true := fun c hc => bne_iff_ne.2 fun heq => h (heq ▸ hc)
  rw [textBefore, List.takeWhile_append_of_pos hall, List.takeWhile_cons_of_neg (by simp), List.append_nil]

theorem textBehind_append (h : sep ∉ before) : textBehind sep (before ++ sep :: behind) = behind := by
  have hall : ∀ c ∈ before, (c != sep) = true := fun c hc => bne_iff_ne.2 fun heq => h (heq ▸ hc)
  rw [textBehind, List.dropWhile_append_of_pos hall, List.dropWhile_cons_of_neg (by simp), List.tail_cons]

/-- A text that holds `sep` is what stands before it, itself, and what stands behind it. -/
theorem textBefore_append_textBehind (h : sep ∈ cs) : textBefore sep cs ++ sep :: textBehind sep cs = cs := by
  obtain ⟨before, behind, rfl, hbefore⟩ := List.eq_append_cons_of_mem h
  rw [textBefore_append hbefore, textBehind_append hbefore]

theorem notMem_textBefore (sep : Char) (cs : List Char) : sep ∉ textBefore sep cs := fun h => by
  simpa using List.mem_takeWhile_imp h

/-- **The two sides of the only separator.** -/
theorem splitOnce?_eq (sep : Char) (cs : List Char) :
    splitOnce? sep cs = if cs.count sep = 1 then some (textBefore sep cs, textBehind sep cs) else none := by
  by_cases h : sep ∈ cs
  · obtain ⟨before, behind, rfl, hbefore⟩ := List.eq_append_cons_of_mem h
    have hcount : (before ++ sep :: behind).count sep = 1 ↔ behind.count sep = 0 := by
      rw [List.count_append, List.count_eq_zero_of_not_mem hbefore, List.count_cons_self]
      omega
    rw [splitOnce?, piecesAt_append hbefore, textBefore_append hbefore, textBehind_append hbefore,
      if_congr hcount rfl rfl]
    split
    · rename_i pieces hpieces
      obtain ⟨rfl, hlast⟩ := List.cons.inj hpieces
      have hlength := length_piecesAt sep behind
      rw [hlast, List.length_singleton] at hlength
      have hzero : behind.count sep = 0 := by omega
      rw [if_pos hzero]
      rw [piecesAt_of_notMem (List.count_eq_zero.1 hzero)] at hlast
      rw [List.singleton_inj.1 hlast]
    · rename_i hother
      rw [if_neg fun hzero => ?_]
      exact hother before behind (by rw [piecesAt_of_notMem (List.count_eq_zero.1 hzero)])
  · rw [splitOnce?, piecesAt_of_notMem h, List.count_eq_zero_of_not_mem h, if_neg (by omega)]

theorem splitOnce?_eq_some_iff :
    splitOnce? sep cs = some (before, behind) ↔ cs = before ++ sep :: behind ∧ sep ∉ before ∧ sep ∉ behind := by
  rw [splitOnce?_eq]
  constructor
  · intro h
    split at h
    · rename_i hcount
      obtain ⟨rfl, rfl⟩ := Prod.mk.inj (Option.some.inj h)
      have hmem : sep ∈ cs := List.count_pos_iff.1 (by omega)
      have hcs := textBefore_append_textBehind hmem
      have hbefore := notMem_textBefore sep cs
      rw [← hcs, List.count_append, List.count_eq_zero_of_not_mem hbefore, List.count_cons_self] at hcount
      exact ⟨hcs.symm, hbefore, List.count_eq_zero.1 (by omega)⟩
    · cases h
  · rintro ⟨rfl, hbefore, hbehind⟩
    have hcount : (before ++ sep :: behind).count sep = 1 := by
      rw [List.count_append, List.count_eq_zero_of_not_mem hbefore, List.count_cons_self,
        List.count_eq_zero_of_not_mem hbehind]
    rw [if_pos hcount, textBefore_append hbefore, textBehind_append hbefore]

/-! ## Beginnings -/

theorem startsWith_iff {start : List Char} : startsWith start cs = true ↔ start <+: cs := by
  rw [startsWith, Option.isSome_iff_exists]
  exact exists_congr fun rest => dropStart?_eq_some_iff.trans eq_comm

end GatewayRegistrar
