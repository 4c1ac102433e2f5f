import GatewayRegistrar.Proofs.Text.Digits
import GatewayRegistrar.Toml.Parser
import GatewayRegistrar.Toml.Printer

/-!
# Reading written texts

A text is written between marks, in one of four forms. `Spelled mark piece free run cs w` says that `w` spells the
characters `cs` for a reader of pieces: each of them by one piece, the mark itself bare only where fewer than `free`
bare marks stand before it. What stands between quotation marks is spelled in this way (`spelled_escaped`), and so is
what stands between apostrophes (`spelled_literal`). A spelled text is read back up to its closing marks, be it one
(`reads_closeOne`) or three, before which up to two bare marks belong to the text (`reads_closeThree`). Hence every
text and every key is read back from its written form, whatever follows (`text_textForm`, `key_keyForm`).
-/

namespace GatewayRegistrar.Toml

/-! ## Characters -/

theorem hexDigit?_hexChar : ∀ n < 16, hexDigit? (hexChar n) = some n := by decide

/-- Hidden characters have small codes. -/
theorem toNat_lt_of_isHidden {c : Char} (h : isHidden c = true) : c.toNat < 128 := by
  simp only [isHidden, Bool.or_eq_true, Bool.and_eq_true, decide_eq_true_eq, beq_iff_eq] at h
  rcases h with ⟨⟨h, _⟩, _⟩ | rfl
  · omega
  · decide

/-- What is neither hidden nor a line feed may stand on a line. -/
theorem isVisible_of_not_isHidden {c : Char} (h : isHidden c = false) (hn : c ≠ '\n') : isVisible c = true := by
  by_cases ht : c = '\t'
  · subst ht; rfl
  · have h7f : c.toNat ≠ 0x7f := fun he => by
      have hc : c = '\x7f' := Char.toNat_inj.1 he
      subst hc
      exact absurd h (by decide)
    simp only [isHidden, Bool.or_eq_false_iff, Bool.and_eq_false_iff, decide_eq_false_iff_not, bne_eq_false_iff_eq,
      ht, hn, or_false, or_false, Nat.not_lt] at h
    simp [isVisible, h.1, h7f]

/-- The code of a character in four hexadecimal digits. -/
theorem coded_hexChar {c : Char} (hc : c.toNat < 256) (rest : List Char) :
    coded 4 ('0' :: '0' :: hexChar (c.toNat / 16) :: hexChar (c.toNat % 16) :: rest) = some (c, rest) := by
  have hhigh := hexDigit?_hexChar (c.toNat / 16) (by omega)
  have hlow := hexDigit?_hexChar (c.toNat % 16) (by omega)
  have hzero : hexDigit? '0' = some 0 := by decide
  have hcode : numberOf 16 ['0', '0', hexChar (c.toNat / 16), hexChar (c.toNat % 16)] = c.toNat := by
    simp only [numberOf, List.foldl_cons, List.foldl_nil, hzero, hhigh, hlow, Option.getD_some]
    omega
  have hvalid : c.toNat.isValidChar := .inl (by omega)
  simp [coded, hzero, hhigh, hlow, hcode, hvalid, Char.ofNat_toNat]

/-- An escaped character other than the quotation mark is read as itself. -/
theorem basicPiece_escapedChar {c : Char} (hq : c ≠ '"') (rest : List Char) :
    basicPiece (escapedChar c ++ rest) = some ([c], rest) := by
  by_cases hshort : c ∈ ['\x08', '\t', '\n', '\x0c', '\r', '\\']
  · simp only [List.mem_cons, List.not_mem_nil, or_false] at hshort
    rcases hshort with rfl | rfl | rfl | rfl | rfl | rfl <;> rfl
  · simp only [List.mem_cons, List.not_mem_nil, or_false, not_or] at hshort
    obtain ⟨hb, ht, hn, hf, hr, hs⟩ := hshort
    simp only [escapedChar, hb, ht, hn, hf, hr, hs, ↓reduceIte]
    cases hidden : isHidden c with
    | true =>
      have hcode := coded_hexChar (Nat.lt_trans (toNat_lt_of_isHidden hidden) (by decide)) rest
      simp [basicPiece, escape, hcode]
    | false => simp [basicPiece, isVisible_of_not_isHidden hidden hn]

/-! ## Spelling -/

/-- **Characters and how they are spelled** for a reader of pieces. The number is how many bare marks stand before. -/
inductive Spelled (mark : Char) (piece : Reader (List Char)) (free : Nat) : Nat → List Char → List Char → Prop
  | nil (run : Nat) : Spelled mark piece free run [] []
  | bare {run : Nat} {cs w : List Char} : run < free → (∀ rest, piece (mark :: rest) = some ([mark], rest)) →
      Spelled mark piece free (run + 1) cs w → Spelled mark piece free run (mark :: cs) (mark :: w)
  | other {run : Nat} {c x : Char} (form : List Char) {cs w : List Char} : x ≠ mark →
      (∀ rest, piece (x :: form ++ rest) = some ([c], rest)) →
      (∀ rest, c = '\n' ∨ lineBreak? (x :: form ++ rest) = none) →
      Spelled mark piece free 0 cs w → Spelled mark piece free run (c :: cs) (x :: form ++ w)

/-- What is read up to the close, with any bound that is large enough. -/
def ReadsTo (close piece : Reader (List Char)) (cs chars rest : List Char) : Prop :=
  ∀ n, cs.length < n → untilClosed close piece n cs = some (chars, rest)

variable {mark : Char} {close piece : Reader (List Char)} {free run : Nat}

theorem ReadsTo.closed {cs chars rest : List Char} (h : close cs = some (chars, rest)) :
    ReadsTo close piece cs chars rest := by
  intro n hn
  cases n with
  | zero => omega
  | succ n => simp [untilClosed, h]

theorem ReadsTo.cons {cs p cs' chars rest : List Char} (hclose : close cs = none) (hpiece : piece cs = some (p, cs'))
    (hlt : cs'.length < cs.length) (h : ReadsTo close piece cs' chars rest) :
    ReadsTo close piece cs (p ++ chars) rest := by
  intro n hn
  cases n with
  | zero => omega
  | succ n => simp [untilClosed, hclose, hpiece, h n (by omega)]

/-! ## Closing marks -/

/-- Where no mark stands bare, a text is read up to its mark. -/
theorem reads_closeOne {cs w : List Char} (h : Spelled mark piece 0 run cs w) (rest : List Char) :
    ReadsTo (closeOne mark) piece (w ++ mark :: rest) cs rest := by
  induction h with
  | nil => exact .closed (by simp [closeOne])
  | bare hlt => omega
  | @other _ c x form cs w hx hpiece _ _ ih =>
    have hread := hpiece (w ++ mark :: rest)
    rw [← List.append_assoc] at hread
    exact .cons (by simp [closeOne, hx]) hread (by simp only [List.length_append, List.length_cons]; omega) ih

/-- Three to five marks close a text, those beyond three belong to it. -/
theorem closeThree_replicate {k : Nat} {rest : List Char} (hk : k ≤ 5) (hrest : rest.head? ≠ some mark) :
    closeThree mark (List.replicate k mark ++ rest) =
      if k < 3 then none else some (List.replicate (k - 3) mark, rest) := by
  have htail : (rest.take (5 - k)).takeWhile (· == mark) = [] := by
    cases rest with
    | nil => simp
    | cons c rest =>
      have hc : c ≠ mark := fun h => hrest (by rw [h]; rfl)
      cases h : 5 - k <;> simp [hc]
  have hmarks : ((List.replicate k mark ++ rest).take 5).takeWhile (· == mark) = List.replicate k mark := by
    rw [List.take_append, List.length_replicate, List.take_of_length_le (by simpa using hk),
      List.takeWhile_append_of_pos (by simp), htail, List.append_nil]
  simp [closeThree, hmarks]

/-- The marks that stand first in a spelled text and its closing marks: either the text is over with them, or there are
too few to close it. -/
theorem Spelled.leading {cs w : List Char} (h : Spelled mark piece 2 run cs w) (rest : List Char) (hrun : run ≤ 2) :
    (∃ k, k + run ≤ 2 ∧ cs = List.replicate k mark ∧
        w ++ [mark, mark, mark] ++ rest = List.replicate (k + 3) mark ++ rest) ∨
      ∃ k tail, k + run ≤ 2 ∧ tail.head? ≠ some mark ∧
        w ++ [mark, mark, mark] ++ rest = List.replicate k mark ++ tail := by
  induction h with
  | nil => exact .inl ⟨0, by omega, rfl, rfl⟩
  | bare hlt _ _ ih =>
    rcases ih (by omega) with ⟨k, hk, hcs, hw⟩ | ⟨k, tail, hk, htail, hw⟩
    · exact .inl ⟨k + 1, by omega, by rw [hcs]; rfl, by simpa [List.replicate_succ] using hw⟩
    · exact .inr ⟨k + 1, tail, by omega, htail, by simpa [List.replicate_succ] using hw⟩
  | @other _ c x form cs w hx _ _ _ _ =>
    exact .inr ⟨0, _, by omega, by simpa using hx, rfl⟩

/-- Where no three marks stand bare, a text is read up to three of them. -/
theorem reads_closeThree {cs w : List Char} (h : Spelled mark piece 2 run cs w) {rest : List Char}
    (hrest : rest.head? ≠ some mark) (hrun : run ≤ 2) :
    ReadsTo (closeThree mark) piece (w ++ [mark, mark, mark] ++ rest) cs rest := by
  induction h with
  | nil => exact .closed (closeThree_replicate (k := 3) (by omega) hrest)
  | @bare run cs w hlt hpiece hw ih =>
    rcases (Spelled.bare hlt hpiece hw).leading rest hrun with ⟨k, hk, hcs, hform⟩ | ⟨k, tail, hk, htail, hform⟩
    · refine .closed ?_
      rw [hform, closeThree_replicate (by omega) hrest, if_neg (by omega), hcs]
      rfl
    · have hopen : closeThree mark (mark :: w ++ [mark, mark, mark] ++ rest) = none := by
        rw [hform, closeThree_replicate (by omega) htail, if_pos (by omega)]
      exact .cons hopen (hpiece _) (by simp) (ih (by omega))
  | @other run c x form cs w hx hpiece hbreak hw ih =>
    have hread := hpiece (w ++ [mark, mark, mark] ++ rest)
    rw [← List.append_assoc, ← List.append_assoc] at hread
    have hlt : (w ++ [mark, mark, mark] ++ rest).length < (x :: form ++ w ++ [mark, mark, mark] ++ rest).length := by
      simp only [List.length_append, List.length_cons]
      omega
    exact .cons (closeThree_replicate (k := 0) (by omega) (by simpa using hx)) hread hlt (ih (by omega))

/-! ## What is spelled -/

/-- What the reader of a text between quotation marks has to read. -/
structure ReadsEscapes (piece : Reader (List Char)) (free : Nat) : Prop where
  escaped {c : Char} (hq : c ≠ '"') (rest : List Char) : piece (escapedChar c ++ rest) = some ([c], rest)
  quote (rest : List Char) : piece ('\\' :: '"' :: rest) = some (['"'], rest)
  bareQuote (rest : List Char) : piece ('"' :: rest) = some (['"'], rest)
  lineFeed (rest : List Char) : free ≠ 0 → piece ('\n' :: rest) = some (['\n'], rest)

/-- What may stand behind the backslash of an escape, apart from the quotation mark. -/
def escapeLetters : List Char := ['b', 't', 'n', 'f', 'r', '\\', 'u']

/-- A character is escaped, or stands for itself. -/
theorem escapedChar_cases (c : Char) :
    (∃ y form, escapedChar c = '\\' :: y :: form ∧ y ∈ escapeLetters) ∨
      escapedChar c = [c] ∧ isHidden c = false ∧ c ≠ '\n' ∧ c ≠ '\\' := by
  by_cases hshort : c ∈ ['\x08', '\t', '\n', '\x0c', '\r', '\\']
  · simp only [List.mem_cons, List.not_mem_nil, or_false] at hshort
    rcases hshort with rfl | rfl | rfl | rfl | rfl | rfl <;> exact .inl ⟨_, _, rfl, by decide⟩
  · simp only [List.mem_cons, List.not_mem_nil, or_false, not_or] at hshort
    obtain ⟨hb, ht, hn, hf, hr, hs⟩ := hshort
    simp only [escapedChar, hb, ht, hn, hf, hr, hs, ↓reduceIte]
    cases isHidden c with
    | true => exact .inl ⟨_, _, rfl, by decide⟩
    | false => exact .inr ⟨rfl, rfl, hn, hs⟩

/-- A carriage return is hidden. -/
theorem ne_return_of_not_isHidden {c : Char} (h : isHidden c = false) : c ≠ '\r' := by
  rintro rfl
  exact absurd h (by decide)

/-- Only a line feed, or a carriage return, begins a line break. -/
theorem lineBreak?_eq_none {x : Char} (hn : x ≠ '\n') (hr : x ≠ '\r') (rest : List Char) :
    lineBreak? (x :: rest) = none := by
  simp [lineBreak?, hn, hr]

/-- **Escaping spells a text.** -/
theorem spelled_escaped (hpiece : ReadsEscapes piece free) (run : Nat) (cs : List Char) :
    Spelled '"' piece free run cs (escaped free run cs) := by
  induction cs generalizing run with
  | nil => exact .nil run
  | cons c cs ih =>
    by_cases hq : c = '"'
    · subst hq
      by_cases hrun : run < free
      · simp only [escaped, ↓reduceIte, hrun]
        exact .bare hrun hpiece.bareQuote (ih _)
      · simp only [escaped, ↓reduceIte, hrun]
        exact .other ['"'] (by decide) hpiece.quote (fun _ => .inr rfl) (ih 0)
    · by_cases hn : c = '\n' ∧ free ≠ 0
      · obtain ⟨rfl, hfree⟩ := hn
        simp only [escaped, hq, ↓reduceIte, hfree, ne_eq, not_false_eq_true, and_self]
        exact .other [] hq (fun rest => hpiece.lineFeed rest hfree) (fun _ => .inl rfl) (ih 0)
      · simp only [escaped, hq, hn, ↓reduceIte]
        have hread := hpiece.escaped hq
        rcases escapedChar_cases c with ⟨y, form, hform, _⟩ | ⟨hform, hidden, hn, _⟩
        · rw [hform] at hread ⊢
          exact .other _ (by decide) hread (fun _ => .inr rfl) (ih 0)
        · rw [hform] at hread ⊢
          exact .other _ hq hread (fun _ => .inr (lineBreak?_eq_none hn (ne_return_of_not_isHidden hidden) _)) (ih 0)

theorem readsEscapes_basicPiece : ReadsEscapes basicPiece 0 where
  escaped := basicPiece_escapedChar
  quote _ := rfl
  bareQuote _ := rfl
  lineFeed _ h := absurd rfl h

/-- A backslash before a letter joins no lines. -/
theorem orJoin_escape {y : Char} (hy : y ∈ escapeLetters) (form : List Char) :
    orJoin piece ('\\' :: y :: form) = piece ('\\' :: y :: form) := by
  simp only [escapeLetters, List.mem_cons, List.not_mem_nil, or_false] at hy
  rcases hy with rfl | rfl | rfl | rfl | rfl | rfl | rfl <;> rfl

theorem readsEscapes_basicLines : ReadsEscapes (orLineBreak (orJoin basicPiece)) 2 where
  escaped {c} hq rest := by
    have hread := basicPiece_escapedChar hq rest
    rcases escapedChar_cases c with ⟨y, form, hform, hy⟩ | ⟨hform, hidden, hn, hs⟩
    · rw [hform] at hread ⊢
      exact (orJoin_escape hy _).trans hread
    · rw [hform] at hread ⊢
      have hjoin : orJoin basicPiece (c :: rest) = basicPiece (c :: rest) := by simp [orJoin, hs]
      have hbreak := lineBreak?_eq_none hn (ne_return_of_not_isHidden hidden) rest
      simpa [orLineBreak, hbreak, hjoin] using hread
  quote _ := rfl
  bareQuote _ := rfl
  lineFeed _ _ := rfl

theorem le_longestRun (mark : Char) (run : Nat) (cs : List Char) : run ≤ longestRun mark run cs := by
  induction cs generalizing run with
  | nil => exact Nat.le_refl run
  | cons c cs ih =>
    unfold longestRun
    split
    · exact Nat.le_trans (Nat.le_succ run) (ih (run + 1))
    · exact Nat.le_max_left ..

/-- **A text without controls spells itself**, as far as its runs of marks are short and its line feeds can be read. -/
theorem spelled_literal {cs : List Char}
    (hvisible : ∀ c rest, isVisible c = true → piece (c :: rest) = some ([c], rest))
    (hfeed : ∀ rest, '\n' ∈ cs → piece ('\n' :: rest) = some (['\n'], rest)) (hmark : isVisible mark = true)
    (hidden : cs.any isHidden = false) (hrun : longestRun mark run cs ≤ free) : Spelled mark piece free run cs cs := by
  induction cs generalizing run with
  | nil => exact .nil run
  | cons c cs ih =>
    simp only [List.any_cons, Bool.or_eq_false_iff] at hidden
    obtain ⟨hc, hcs⟩ := hidden
    have hfeed' : ∀ rest, '\n' ∈ cs → piece ('\n' :: rest) = some (['\n'], rest) :=
      fun rest h => hfeed rest (List.mem_cons_of_mem _ h)
    unfold longestRun at hrun
    split at hrun
    · subst_vars
      have := le_longestRun c (run + 1) cs
      exact .bare (by omega) (hvisible c · hmark) (ih hfeed' hcs hrun)
    · rename_i hne
      have hrest := ih hfeed' hcs (Nat.le_trans (Nat.le_max_right ..) hrun)
      by_cases hn : c = '\n'
      · subst hn
        exact .other [] hne (hfeed · List.mem_cons_self) (fun _ => .inl rfl) hrest
      · have hread := fun rest => hvisible c rest (isVisible_of_not_isHidden hc hn)
        have hbreak := lineBreak?_eq_none hn (ne_return_of_not_isHidden hc)
        exact .other [] hne hread (fun rest => .inr (hbreak rest)) hrest

/-! ## Texts -/

variable {s : String} {w : List Char}

theorem lineText_spelled (h : Spelled mark piece 0 0 s.toList w) (rest : List Char) :
    lineText mark piece (w ++ mark :: rest) = some (s, rest) := by
  have hread := reads_closeOne h rest _ (Nat.lt_succ_self _)
  simp only [lineText]
  rw [hread]
  simp

/-- A text that begins with no line break is spelled so. -/
theorem Spelled.lineBreak?_eq_none {cs : List Char} (h : Spelled mark piece free run cs w) (hcs : '\n' ∉ cs)
    (hmark : mark ≠ '\r') (hmark' : mark ≠ '\n') (rest : List Char) : lineBreak? (w ++ mark :: rest) = none := by
  cases h with
  | nil => exact Toml.lineBreak?_eq_none hmark' hmark rest
  | bare => exact Toml.lineBreak?_eq_none hmark' hmark _
  | other form _ _ hbreak =>
    rw [List.append_assoc]
    exact (hbreak _).resolve_left fun hc => hcs (hc ▸ List.mem_cons_self)

theorem linesText_spelled (h : Spelled mark piece 2 0 s.toList w) (hmark : mark ≠ '\r') (hmark' : mark ≠ '\n')
    {rest : List Char} (hrest : rest.head? ≠ some mark) :
    linesText mark piece (leadingBreak s.toList ++ w ++ [mark, mark, mark] ++ rest) = some (s, rest) := by
  have hdrop : dropLineBreak (leadingBreak s.toList ++ w ++ [mark, mark, mark] ++ rest)
      = w ++ [mark, mark, mark] ++ rest := by
    by_cases hn : '\n' ∈ s.toList
    · simp [leadingBreak, hn, dropLineBreak, lineBreak?]
    · have := h.lineBreak?_eq_none hn hmark hmark' (mark :: mark :: rest)
      simp [leadingBreak, hn, dropLineBreak, this]
  have hread := reads_closeThree h hrest (by omega) _ (Nat.lt_succ_self _)
  simp only [linesText, hdrop]
  rw [hread]
  simp

/-- A text that does not begin with three marks stands on one line. -/
theorem text_eq_oneLine {cs : List Char} (hquote : ∀ rest, cs ≠ '"' :: '"' :: '"' :: rest)
    (happ : ∀ rest, cs ≠ '\'' :: '\'' :: '\'' :: rest) : text cs = oneLine cs := by
  unfold text
  split
  · exact absurd rfl (hquote _)
  · exact absurd rfl (happ _)
  · rfl

/-- Where no mark stands bare, the mark before a text and the text are not three marks. -/
theorem Spelled.ne_three_marks {cs : List Char} (h : Spelled mark piece 0 run cs w) {rest : List Char}
    (hrest : rest.head? ≠ some mark) (tail : List Char) : w ++ mark :: rest ≠ mark :: mark :: tail := by
  cases h with
  | nil =>
    intro he
    simp only [List.nil_append, List.cons.injEq, true_and] at he
    exact hrest (by rw [he]; rfl)
  | bare hlt => omega
  | other form hx => simpa using fun he => absurd he hx

theorem oneLine_basic (s : String) (rest : List Char) :
    oneLine (Quotation.basic.write s.toList ++ rest) = some (s, rest) := by
  have h := lineText_spelled (spelled_escaped readsEscapes_basicPiece 0 s.toList) rest
  simpa [Quotation.write, oneLine] using h

theorem literalPiece_visible (c : Char) (rest : List Char) (h : isVisible c = true) :
    literalPiece (c :: rest) = some ([c], rest) := by
  simp [literalPiece, h]

/-- What is written as it stands on one line has no apostrophes, line feeds or controls. -/
theorem spelled_of_literal {cs : List Char} (h : Quotation.of cs = .literal) : Spelled '\'' literalPiece 0 0 cs cs := by
  have hform : cs.any isHidden = false ∧ '\n' ∉ cs ∧ longestRun '\'' 0 cs = 0 := by
    unfold Quotation.of at h
    grind
  obtain ⟨hidden, hn, hrun⟩ := hform
  exact spelled_literal literalPiece_visible (fun _ hfeed => absurd hfeed hn) (by decide) hidden (by omega)

/-- What is written as it stands on several lines has no long runs of apostrophes and no controls. -/
theorem spelled_of_literalLines {cs : List Char} (h : Quotation.of cs = .literalLines) :
    Spelled '\'' (orLineBreak literalPiece) 2 0 cs cs := by
  have hform : cs.any isHidden = false ∧ longestRun '\'' 0 cs ≤ 2 := by
    unfold Quotation.of at h
    grind
  refine spelled_literal (fun c rest hc => ?_) (fun _ _ => rfl) (by decide) hform.1 hform.2
  have hbreak : lineBreak? (c :: rest) = none := by
    refine lineBreak?_eq_none ?_ ?_ rest <;> rintro rfl <;> exact absurd hc (by decide)
  simpa [orLineBreak, hbreak] using literalPiece_visible c rest hc

theorem oneLine_literal (h : Quotation.of s.toList = .literal) (rest : List Char) :
    oneLine (Quotation.literal.write s.toList ++ rest) = some (s, rest) := by
  have h := lineText_spelled (spelled_of_literal h) rest
  simpa [Quotation.write, oneLine] using h

/-- **A written text is read back.** -/
theorem text_textForm (s : String) {rest : List Char} (hquote : rest.head? ≠ some '"')
    (happ : rest.head? ≠ some '\'') : text (textForm s ++ rest) = some (s, rest) := by
  unfold textForm
  cases h : Quotation.of s.toList with
  | basic =>
    have hne := (spelled_escaped readsEscapes_basicPiece 0 s.toList).ne_three_marks hquote
    rw [text_eq_oneLine, oneLine_basic]
    · intro tail he
      exact hne tail (by simpa [Quotation.write] using he)
    · intro tail he
      simp [Quotation.write] at he
  | literal =>
    have hne := (spelled_of_literal h).ne_three_marks happ
    rw [text_eq_oneLine, oneLine_literal h]
    · intro tail he
      simp [Quotation.write] at he
    · intro tail he
      exact hne tail (by simpa [Quotation.write] using he)
  | basicLines =>
    have hread := linesText_spelled (spelled_escaped readsEscapes_basicLines 0 s.toList) (by decide) (by decide) hquote
    simpa [Quotation.write, text] using hread
  | literalLines =>
    have hread := linesText_spelled (spelled_of_literalLines h) (by decide) (by decide) happ
    simpa [Quotation.write, text] using hread

/-! ## Keys -/

/-- A bare key is no text in marks. -/
theorem oneLine_bare {cs : List Char} (hne : cs ≠ []) (hcs : ∀ c ∈ cs, isBareKeyChar c = true) (rest : List Char) :
    oneLine (cs ++ rest) = none := by
  obtain ⟨c, cs, rfl⟩ := List.exists_cons_of_ne_nil hne
  have hc := hcs c List.mem_cons_self
  have hquote : c ≠ '"' := by rintro rfl; exact absurd hc (by decide)
  have happ : c ≠ '\'' := by rintro rfl; exact absurd hc (by decide)
  simp [oneLine, hquote, happ]

/-- **A written key is read back.** -/
theorem key_keyForm (k : String) (rest : List Char) (hrest : ∀ c, rest.head? = some c → isBareKeyChar c = false) :
    key (keyForm k ++ rest) = some (k, rest) := by
  unfold keyForm
  simp only
  split
  · rename_i hplain
    simp only [Bool.and_eq_true, Bool.not_eq_true', List.isEmpty_eq_false_iff, List.all_eq_true] at hplain
    obtain ⟨hne, hall⟩ := hplain
    -- the writer and the reader allow the same characters
    have hall : ∀ c ∈ k.toList, isBareKeyChar c = true := hall
    obtain ⟨htake, hdrop⟩ := takeWhile_dropWhile_append hall hrest
    simp only [key, oneLine_bare hne hall]
    rw [htake, hdrop, String.ofList_toList]
    simp [hne]
  · split
    · rename_i h
      simp only [key, oneLine_literal h]
    · simp only [key, oneLine_basic]

end GatewayRegistrar.Toml
