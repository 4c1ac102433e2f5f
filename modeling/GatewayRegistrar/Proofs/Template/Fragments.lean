import GatewayRegistrar.Proofs.Template.References
import GatewayRegistrar.Template.Layout

/-!
# Templates of texts and references

A template may be put together from texts and references. Texts without braces and backslashes stand for themselves,
so such a template has one part for each reference and one for the text between two of them (`partsOfText?_template`).
A template in which no two braces open has its text as its only part (`partsOfText?_unopened`).
-/

namespace GatewayRegistrar.Template

/-! ## Plain text -/

/-- Text without braces and backslashes. -/
def IsPlain (t : List Char) : Prop := ∀ c ∈ t, c ≠ '{' ∧ c ≠ '}' ∧ c ≠ '\\'

instance : DecidablePred IsPlain := fun t => List.decidableBAll _ t

section PlainText

variable {t rest : List Char}

/-- Plain text goes up to the next tag. -/
theorem plainText_append (ht : IsPlain t) (hrest : rest = [] ∨ ∃ more, rest = opening 2 ++ more) {n : Nat}
    (hn : t.length ≤ n) : plainText (opening 2) n (t ++ rest) = (t, rest) := by
  induction t generalizing n with
  | nil =>
    rcases hrest with rfl | ⟨more, rfl⟩
    · cases n <;> rfl
    · cases n <;> rfl
  | cons c t ih =>
    obtain ⟨n, rfl⟩ := Nat.exists_eq_succ_of_ne_zero (Nat.ne_zero_of_lt hn)
    obtain ⟨⟨hbrace, -, hmark⟩, ht⟩ := List.forall_mem_cons.1 ht
    have hstop : startsWith (opening 2) (c :: (t ++ rest)) = false := by
      simp [startsWith, opening, dropStart?, hbrace.symm]
    have hmore := ih ht (Nat.le_of_succ_le_succ hn)
    simp [plainText, hmark, hstop, hmore]

theorem IsPlain.plainText_suffix (ht : IsPlain t) (hrest : rest = [] ∨ ∃ more, rest = opening 2 ++ more) {s : List Char}
    (hs : s <:+ t) : plainText (opening 2) (s ++ rest).length (s ++ rest) = (s, rest) :=
  plainText_append (fun c hc => ht c (hs.subset hc)) hrest (by simp)

theorem startsWith_unopened {s : List Char} (ht : ¬ opening 2 <:+: t) (hs : s <:+ t) :
    startsWith (opening 2) s = false := by
  refine Bool.eq_false_iff.2 fun hstart => ht ?_
  obtain ⟨more, hmore⟩ := Option.isSome_iff_exists.1 hstart
  have hinfix : opening 2 <:+: s := ⟨[], more, (eq_append_of_dropStart? hmore).symm⟩
  exact hinfix.trans hs.isInfix

/-- Text in which no two braces open goes up to its end. -/
theorem plainText_unopened (ht : ¬ opening 2 <:+: t) {n : Nat} (hn : t.length ≤ n) :
    plainText (opening 2) n t = (t, []) := by
  induction t generalizing n with
  | nil => cases n <;> rfl
  | cons c t ih =>
    obtain ⟨n, rfl⟩ := Nat.exists_eq_succ_of_ne_zero (Nat.ne_zero_of_lt hn)
    have hstop := startsWith_unopened ht List.suffix_rfl
    -- what stands behind backslashes does not open braces either
    have hmarked := startsWith_unopened ht ((List.dropWhile_suffix (· == '\\')).trans (List.suffix_cons c t))
    have hmore := ih (fun h => ht (h.trans (List.suffix_cons c t).isInfix)) (Nat.le_of_succ_le_succ hn)
    simp [plainText, hmarked, hstop, hmore]

end PlainText

/-! ## Pieces -/

section Pieces

variable {t rest before : List Char}

/-- The blanks that a text begins with, unless nothing stands before it. -/
def leadingBlanks (before t : List Char) : List Char := if before.isEmpty then [] else t.takeWhile isTagBlank

/-- The pieces for a text up to the next tag: no empty one. -/
def gapOf (before t : List Char) : List Piece :=
  if t = [] then [] else [.gap (leadingBlanks before t) (t.drop (leadingBlanks before t).length)]

theorem isPrefix_leadingBlanks (before t : List Char) : leadingBlanks before t <+: t := by
  unfold leadingBlanks
  split
  · exact List.nil_prefix
  · exact List.takeWhile_prefix _

theorem leadingBlanks_append (hrest : ∀ c, rest.head? = some c → isTagBlank c = false) :
    leadingBlanks before (t ++ rest) = leadingBlanks before t := by
  have htake : (t ++ rest).takeWhile isTagBlank = t.takeWhile isTagBlank := by
    induction t with
    | nil =>
      cases rest with
      | nil => rfl
      | cons c rest => simp [hrest c rfl]
    | cons c t ih => by_cases hc : isTagBlank c = true <;> simp [hc, ih]
  rw [leadingBlanks, htake, leadingBlanks]

theorem past_append (before t rest : List Char) : past before (t ++ rest) rest = t.reverse ++ before := by
  simp [past]

/-- The pieces of a text without tags. -/
theorem pieces?_end (hread : ∀ s, s <:+ t → plainText (opening 2) s.length s = (s, [])) (before : List Char) (n : Nat) :
    pieces? (n + 1) before t = some (gapOf before t) := by
  have hblanks : (if before.isEmpty then [] else t.takeWhile isTagBlank) = leadingBlanks before t := rfl
  have hs := hread _ (List.drop_suffix (leadingBlanks before t).length t)
  have hgap : (if ([] : List Char).length = t.length then [] else
      [Piece.gap (leadingBlanks before t) (t.drop (leadingBlanks before t).length)]) = gapOf before t := by
    simp only [gapOf, List.length_nil, eq_comm (a := 0), List.length_eq_zero_iff]
  simp only [pieces?, hblanks, hs, hgap, List.isEmpty_nil, if_true]

/-- The first pieces are the text up to the next tag, and that tag. -/
theorem pieces?_tag {tok : Token} (ht : IsPlain t) (hopen : ∃ more, rest = opening 2 ++ more)
    (hverbatim : verbatim? (t.reverse ++ before) rest = none)
    (htoken : token? (t.reverse ++ before) rest = some tok) (n : Nat) :
    pieces? (n + 1) before (t ++ rest) =
      (pieces? n (past (t.reverse ++ before) rest tok.after) tok.after).map (gapOf before t ++ .token tok :: ·) := by
  obtain ⟨more, rfl⟩ := hopen
  have hblanks : (if before.isEmpty then [] else (t ++ (opening 2 ++ more)).takeWhile isTagBlank) =
      leadingBlanks before t := leadingBlanks_append (by rintro _ ⟨⟩; rfl)
  have hdrop : (t ++ (opening 2 ++ more)).drop (leadingBlanks before t).length =
      t.drop (leadingBlanks before t).length ++ (opening 2 ++ more) :=
    List.drop_append_of_le_length (isPrefix_leadingBlanks before t).length_le
  have hs := ht.plainText_suffix (.inr ⟨more, rfl⟩) (List.drop_suffix (leadingBlanks before t).length t)
  have hgap : (if (opening 2 ++ more).length = (t ++ (opening 2 ++ more)).length then [] else
      [Piece.gap (leadingBlanks before t) (t.drop (leadingBlanks before t).length)]) = gapOf before t := by
    simp only [gapOf, List.length_append, Nat.right_eq_add, List.length_eq_zero_iff]
  have hempty : (opening 2 ++ more).isEmpty = false := rfl
  simp only [pieces?, hblanks, hdrop, hs, hgap, hempty, past_append, hverbatim, htoken, Bool.false_eq_true, if_false,
    Option.bind_eq_bind, Option.bind_some]
  cases pieces? n (past (t.reverse ++ before) (opening 2 ++ more) tok.after) tok.after <;> rfl

end Pieces

/-! ## Fragments -/

/-- What a template is put together from. -/
inductive Fragment where
  | text (s : String)
  | reference (r : Reference)
deriving DecidableEq, Repr

namespace Fragment

/-- The fragment as it is written. -/
def written : Fragment → List Char
  | text s => s.toList
  | reference r => r.written

/-- Whether the fragment is read as what it is. -/
def IsReadable : Fragment → Prop
  | text s => IsPlain s.toList
  | reference r => r.IsWritable

instance : DecidablePred IsReadable
  | text s => inferInstanceAs (Decidable (IsPlain s.toList))
  | reference r => inferInstanceAs (Decidable r.IsWritable)

/-- The template that consists of the fragments. -/
def template (fs : List Fragment) : String := String.ofList (fs.flatMap written)

/-- The parts for a text: no empty one. -/
def textParts (t : List Char) : List Part := if t = [] then [] else [.text (String.ofList t)]

/-- The place behind a text in reverse order. -/
def placeBehind (before : List Char) : Place := ⟨1 + before.count '\n', 1 + (before.takeWhile (· != '\n')).length⟩

/-- The parts that fragments are read as, behind the text `t`; `before` stands before that text, in reverse order. -/
def partsOf (before t : List Char) : List Fragment → List Part
  | [] => textParts t
  | text s :: fs => partsOf before (t ++ s.toList) fs
  | reference r :: fs =>
    let before := t.reverse ++ before
    textParts t ++ .expression (placeBehind before) r.reading :: partsOf (r.written.reverse ++ before) [] fs

end Fragment

/-- The draft of a template without blocks, with its parts in reverse order. -/
def Draft.ofParts (parts : List Part) : Draft := ⟨⟨.whole, parts⟩, [], false, false⟩

open Fragment

@[simp] theorem reverse_textParts (t : List Char) : (textParts t).reverse = textParts t := by
  unfold textParts
  split <;> rfl

theorem foldlM_gapOf (before t : List Char) (done : List Part) :
    (gapOf before t).foldlM Draft.piece? (.ofParts done) = some (.ofParts (textParts t ++ done)) := by
  by_cases ht : t = []
  · simp [gapOf, textParts, ht]
  · have hwhole : leadingBlanks before t ++ t.drop (leadingBlanks before t).length = t :=
      List.prefix_iff_eq_append.1 (isPrefix_leadingBlanks before t)
    simp [gapOf, ht, Draft.piece?, Draft.gap, Draft.ofParts, Draft.push, textParts, hwhole]

/-- A text and the reference behind it are read before any more of the template. -/
theorem foldlM_pieces?_reference {t : List Char} (ht : IsPlain t) {r : Reference} (hr : r.IsWritable)
    (before rest : List Char) (n : Nat) (done : List Part) :
    (pieces? (n + 1) before (t ++ (r.written ++ rest))).bind (·.foldlM Draft.piece? (.ofParts done)) =
      (pieces? n (r.written.reverse ++ (t.reverse ++ before)) rest).bind (·.foldlM Draft.piece?
        (.ofParts (.expression (placeBehind (t.reverse ++ before)) r.reading :: (textParts t ++ done)))) := by
  let tag : Token := ⟨.expression r.reading, t.reverse ++ before, rest, false, false⟩
  let next : Draft := .ofParts (.expression (placeBehind (t.reverse ++ before)) r.reading :: (textParts t ++ done))
  -- the draft takes the gap and the tag before the pieces behind them
  have hfold : ∀ more, (gapOf before t ++ Piece.token tag :: more).foldlM Draft.piece? (.ofParts done) =
      more.foldlM Draft.piece? next := fun more => by
    rw [List.foldlM_append, foldlM_gapOf]
    rfl
  have hpieces := pieces?_tag ht ⟨_, r.written_append rest⟩ (r.verbatim?_written (t.reverse ++ before) rest)
    (Reference.token?_written hr (t.reverse ++ before) rest) n
  rw [past_append] at hpieces
  rw [hpieces, Option.bind_map]
  exact congrArg _ (funext hfold)

/-- **Fragments are read as their parts.** -/
theorem foldlM_pieces? {fs : List Fragment} (hfs : ∀ f ∈ fs, f.IsReadable) {t : List Char} (ht : IsPlain t) {n : Nat}
    (hn : (t ++ fs.flatMap written).length < n) (before : List Char) (done : List Part) :
    (pieces? n before (t ++ fs.flatMap written)).bind (·.foldlM Draft.piece? (.ofParts done)) =
      some (.ofParts ((partsOf before t fs).reverse ++ done)) := by
  obtain ⟨n, rfl⟩ := Nat.exists_eq_succ_of_ne_zero (Nat.ne_zero_of_lt hn)
  induction fs generalizing t n before done with
  | nil =>
    have hread : ∀ s, s <:+ t → plainText (opening 2) s.length s = (s, []) := fun s hs => by
      have hend := ht.plainText_suffix (.inl rfl) hs
      rwa [List.append_nil] at hend
    rw [List.flatMap_nil, List.append_nil, pieces?_end hread, Option.bind_some, foldlM_gapOf, partsOf,
      reverse_textParts]
  | cons f fs ih =>
    obtain ⟨hf, hrest⟩ := List.forall_mem_cons.1 hfs
    cases f with
    | text s =>
      have hplain : IsPlain (t ++ s.toList) := List.forall_mem_append.2 ⟨ht, hf⟩
      have hwritten : t ++ (text s :: fs).flatMap written = t ++ s.toList ++ fs.flatMap written := by
        rw [List.flatMap_cons, List.append_assoc]
        rfl
      rw [hwritten] at hn ⊢
      exact ih hrest hplain before done n hn
    | reference r =>
      have hwritten : t ++ (reference r :: fs).flatMap written = t ++ (r.written ++ fs.flatMap written) := rfl
      have hlong : (fs.flatMap written).length < n := by
        have hopen : 0 < r.written.length := Nat.zero_lt_succ _
        simp only [hwritten, List.length_append] at hn
        omega
      obtain ⟨n, rfl⟩ := Nat.exists_eq_succ_of_ne_zero (Nat.ne_zero_of_lt hlong)
      rw [hwritten, foldlM_pieces?_reference ht hf]
      have htail := ih hrest (List.forall_mem_nil _) (r.written.reverse ++ (t.reverse ++ before))
        (.expression (placeBehind (t.reverse ++ before)) r.reading :: (textParts t ++ done)) n hlong
      rw [List.nil_append] at htail
      rw [htail]
      simp [partsOf]

/-- **The template of fragments has their parts.** -/
theorem partsOfText?_template {fs : List Fragment} (hfs : ∀ f ∈ fs, f.IsReadable) :
    partsOfText? (template fs) = some (partsOf [] [] fs) := by
  have hread := foldlM_pieces? hfs (List.forall_mem_nil _) (Nat.lt_succ_self _) [] []
  rw [List.nil_append, List.append_nil] at hread
  obtain ⟨ps, hps, hfold⟩ := Option.bind_eq_some_iff.1 hread
  have hdraft : ps.foldlM Draft.piece? .start = some (.ofParts (partsOf [] [] fs).reverse) := hfold
  simp only [partsOfText?, template, String.toList_ofList, hps, hdraft, Option.bind_eq_bind, Option.bind_some]
  simp [Draft.ofParts]

/-- **A text in which no two braces open is a template of its own.** -/
theorem partsOfText?_unopened {s : String} (hs : ¬ opening 2 <:+: s.toList) :
    partsOfText? s = some (textParts s.toList) := by
  have hread : ∀ t, t <:+ s.toList → plainText (opening 2) t.length t = (t, []) := fun t ht =>
    plainText_unopened (fun h => hs (h.trans ht.isInfix)) (Nat.le_refl _)
  have hpieces : pieces? (s.toList.length + 1) [] s.toList = some (gapOf [] s.toList) := pieces?_end hread [] _
  have hdraft : (gapOf [] s.toList).foldlM Draft.piece? .start = some (.ofParts (textParts s.toList)) := by
    have h := foldlM_gapOf [] s.toList []
    rwa [List.append_nil] at h
  simp only [partsOfText?, hpieces, hdraft, Option.bind_eq_bind, Option.bind_some]
  simp [Draft.ofParts]

end GatewayRegistrar.Template
