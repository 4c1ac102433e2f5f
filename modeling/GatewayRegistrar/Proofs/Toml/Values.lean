import GatewayRegistrar.Proofs.Text.Digits
import GatewayRegistrar.Proofs.Toml.Quotation

/-!
# Reading written values

`Plain n v` says that `v` is made of truth values, integers of 64 bits, texts, and lists that stand in one another at
most `n` deep. Such a value is read back from its written form before anything that may follow a value: the end of the
line, a comma or a closing bracket (`value_valueForm`).
-/

namespace GatewayRegistrar.Toml

/-- Values that are written as they are read. -/
inductive Plain : Nat → Value → Prop
  | boolean (n : Nat) (b : Bool) : Plain n (.boolean b)
  | integer (n : Nat) {i : Int} : -0x8000000000000000 ≤ i → i < 0x8000000000000000 → Plain n (.integer i)
  | text (n : Nat) (s : String) : Plain n (.text s)
  | list {n : Nat} {vs : List Value} : (∀ v ∈ vs, Plain n v) → Plain (n + 1) (.list vs)

/-- What may follow a value. -/
inductive Ends : List Char → Prop
  | line (rest : List Char) : Ends ('\n' :: rest)
  | item (rest : List Char) : Ends (',' :: rest)
  | list (rest : List Char) : Ends (']' :: rest)

variable {rest : List Char}

/-! ## Integers -/

/-- How an integer begins. -/
theorem integerForm_eq_cons (i : Int) : ∃ c cs, integerForm i = c :: cs ∧ (c = '-' ∨ c.isDigit = true) := by
  obtain ⟨d, ds, hcons, hd, _⟩ := decimalText_eq_cons i.natAbs
  unfold integerForm
  split
  · exact ⟨_, _, rfl, .inl rfl⟩
  · exact ⟨d, ds, hcons, .inr hd⟩

/-- Digits are read up to what may follow a value. -/
theorem moreDigits_append {ds : List Char} (hds : ∀ c ∈ ds, c.isDigit = true) (h : Ends rest) :
    moreDigits Char.isDigit (ds ++ rest) = (ds, rest) := by
  induction ds with
  | nil => cases h <;> simp [moreDigits]
  | cons d ds ih =>
    have hd := hds d List.mem_cons_self
    have hne : d ≠ '_' := by rintro rfl; exact absurd hd (by decide)
    have hrest := ih fun c hc => hds c (List.mem_cons_of_mem _ hc)
    rw [List.cons_append, moreDigits]
    · simp [hd, hrest]
    · simp [hne]

theorem wholeDigits_decimalText (n : Nat) (h : Ends rest) :
    wholeDigits (decimalText n ++ rest) = some (decimalText n, rest) := by
  obtain ⟨d, ds, hcons, hd, hds, hzero⟩ := decimalText_eq_cons n
  rw [hcons, List.cons_append]
  by_cases h0 : d = '0'
  · subst h0
    rw [hzero rfl]
    rfl
  · rw [wholeDigits]
    · simp [someDigits, hd, moreDigits_append hds h]
    · simp [h0]

theorem decimalNumber_decimalText (negative : Bool) (n : Nat) (h : Ends rest) :
    decimalNumber negative (decimalText n ++ rest) = (word? negative n).map (·, rest) := by
  have hfraction : isFraction rest = false := by cases h <;> rfl
  simp [decimalNumber, wholeDigits_decimalText n h, hfraction, numberOf_decimalText]

/-- What begins with no mark of a base and no word is a number in base ten. -/
theorem number_eq_decimalNumber {cs tail : List Char} {negative : Bool} (hsign : takeSign cs = (negative, tail))
    (hbase : ∀ c more, cs = '0' :: c :: more → c ∉ ['x', 'o', 'b'])
    (hword : ∀ c, tail.head? = some c → c ∉ ['i', 'n']) :
    number cs = decimalNumber negative tail := by
  unfold number
  split
  · exact absurd (hbase _ _ rfl) (by decide)
  · exact absurd (hbase _ _ rfl) (by decide)
  · exact absurd (hbase _ _ rfl) (by decide)
  · rw [hsign]
    split
    · rename_i heq
      cases heq
      exact absurd (hword _ rfl) (by decide)
    · rename_i heq
      cases heq
      exact absurd (hword _ rfl) (by decide)
    · rename_i heq
      cases heq
      rfl

/-- **An integer of 64 bits is read back.** -/
theorem number_integerForm {i : Int} (hlow : -0x8000000000000000 ≤ i) (hhigh : i < 0x8000000000000000) (h : Ends rest) :
    number (integerForm i ++ rest) = some (.integer i, rest) := by
  obtain ⟨d, ds, hcons, hd, hds, hzero⟩ := decimalText_eq_cons i.natAbs
  have hne : ∀ c : Char, c.isDigit = false → d ≠ c := by rintro c hc rfl; rw [hd] at hc; cases hc
  have hword : ∀ c, (decimalText i.natAbs ++ rest).head? = some c → c ∉ ['i', 'n'] := by
    rw [hcons]
    simp [hne]
  by_cases hneg : i < 0
  · have hsign : takeSign (integerForm i ++ rest) = (true, decimalText i.natAbs ++ rest) := by
      simp [integerForm, hneg, takeSign]
    have hbase : ∀ c more, integerForm i ++ rest = '0' :: c :: more → c ∉ ['x', 'o', 'b'] := by
      simp [integerForm, hneg]
    have hvalue : word? true i.natAbs = some (.integer i) := by
      rw [word?, if_pos rfl, if_pos (by omega)]
      congr 2
      omega
    rw [number_eq_decimalNumber hsign hbase hword, decimalNumber_decimalText _ _ h, hvalue]
    rfl
  · have hform : integerForm i = decimalText i.natAbs := by simp [integerForm, hneg]
    have hsign : takeSign (decimalText i.natAbs ++ rest) = (false, decimalText i.natAbs ++ rest) := by
      rw [hcons]
      simp [takeSign, hne]
    have hbase : ∀ c more, decimalText i.natAbs ++ rest = '0' :: c :: more → c ∉ ['x', 'o', 'b'] := by
      intro c more he
      rw [hcons, List.cons_append, List.cons.injEq] at he
      obtain ⟨h0, he⟩ := he
      -- a zero at the start is the only digit, so what follows it ends the value
      rw [hzero h0, List.nil_append] at he
      subst he
      cases h <;> decide
    have hvalue : word? false i.natAbs = some (.integer i) := by
      rw [word?, if_neg (by decide), if_pos (by omega)]
      congr 2
      omega
    rw [hform, number_eq_decimalNumber hsign hbase hword, decimalNumber_decimalText _ _ h, hvalue]
    rfl

/-! ## No moments -/

/-- Some digits of a number are read from the number only. -/
theorem fixedNumber_append {ds : List Char} (h : Ends rest) {width low high : Nat} {found : Nat × List Char}
    {after : List Char} (hread : fixedNumber width low high (ds ++ rest) = some (found, after)) :
    after = ds.drop width ++ rest := by
  simp only [fixedNumber] at hread
  split at hread
  · rename_i hall
    simp only [List.take_append, List.all_append, Bool.and_eq_true] at hall
    obtain ⟨_, ⟨_, hrest⟩, _⟩ := hall
    have hwidth : width - ds.length = 0 := by
      cases hk : width - ds.length with
      | zero => rfl
      | succ k =>
        obtain ⟨c, tail, rfl, hc⟩ : ∃ c tail, rest = c :: tail ∧ c.isDigit = false := by
          cases h <;> exact ⟨_, _, rfl, by decide⟩
        simp [hk, hc] at hrest
    cases hread
    rw [List.drop_append, hwidth, List.drop_zero]
  · cases hread

/-- Behind digits of a number stands no mark of a date or a time. -/
theorem mark_digits {ds : List Char} (hds : ∀ c ∈ ds, c.isDigit = true) (h : Ends rest) {m : Char}
    (hm : m = '-' ∨ m = ':') : mark m (ds ++ rest) = none := by
  cases ds with
  | nil => rcases hm with rfl | rfl <;> cases h <;> rfl
  | cons d ds =>
    have hd := hds d List.mem_cons_self
    have hne : d ≠ m := by rintro rfl; rcases hm with rfl | rfl <;> exact absurd hd (by decide)
    simp [mark, hne]

/-- Digits are no moment. -/
theorem momentText_digits {ds : List Char} (hds : ∀ c ∈ ds, c.isDigit = true) (h : Ends rest) :
    momentText (ds ++ rest) = none := by
  have hmark : ∀ {m : Char}, m = '-' ∨ m = ':' → ∀ width, mark m (ds.drop width ++ rest) = none :=
    fun hm width => mark_digits (fun c hc => hds c (List.mem_of_mem_drop hc)) h hm
  have hdate : date (ds ++ rest) = none := by
    unfold date
    cases hread : fixedNumber 4 0 9999 (ds ++ rest) with
    | none => rfl
    | some p => simp [fixedNumber_append h hread, hmark (.inl rfl)]
  have htime : timeOfDay (ds ++ rest) = none := by
    unfold timeOfDay
    cases hread : fixedNumber 2 0 23 (ds ++ rest) with
    | none => rfl
    | some p => simp [fixedNumber_append h hread, hmark (.inr rfl)]
  simp [momentText, hdate, htime]

/-- A minus sign begins no moment. -/
theorem momentText_minus (cs : List Char) : momentText ('-' :: cs) = none := by
  have hfixed : ∀ width low high, fixedNumber (width + 1) low high ('-' :: cs) = none := by
    intro width low high
    have hdigit : Char.isDigit '-' = false := by decide
    simp [fixedNumber, hdigit]
  simp [momentText, date, timeOfDay, hfixed]

/-- An integer is no moment. -/
theorem momentText_integerForm (i : Int) (h : Ends rest) : momentText (integerForm i ++ rest) = none := by
  unfold integerForm
  split
  · exact momentText_minus _
  · exact momentText_digits (fun _ => isDigit_of_mem_decimalText) h

/-! ## Values -/

/-- The characters that stand between values. -/
def voidChars : List Char := [' ', '\t', '\n', '\r', '#']

/-- What begins with a character of its own is reached without a gap. -/
theorem skipVoid_cons {c : Char} (hc : c ∉ voidChars) (cs : List Char) : skipVoid false (c :: cs) = c :: cs := by
  simp only [voidChars, List.mem_cons, List.not_mem_nil, or_false, not_or] at hc
  obtain ⟨hs, ht, hn, hr, hh⟩ := hc
  simp [skipVoid, hs, ht, hr, hh]

theorem skipBlanks_cons {c : Char} (hc : c ∉ voidChars) (cs : List Char) : skipBlanks (c :: cs) = c :: cs := by
  simp only [voidChars, List.mem_cons, List.not_mem_nil, or_false, not_or] at hc
  obtain ⟨hs, ht, _⟩ := hc
  simp [skipBlanks, hs, ht]

/-- How a text begins. -/
theorem textForm_eq_cons (s : String) : ∃ c cs, textForm s = c :: cs ∧ (c = '"' ∨ c = '\'') := by
  unfold textForm
  cases Quotation.of s.toList
  · exact ⟨_, _, rfl, .inl rfl⟩
  · exact ⟨_, _, rfl, .inr rfl⟩
  · exact ⟨_, _, rfl, .inl rfl⟩
  · exact ⟨_, _, rfl, .inr rfl⟩

/-- How a value begins. -/
theorem Plain.valueForm_eq_cons {n : Nat} {v : Value} (h : Plain n v) :
    ∃ c cs, valueForm v = c :: cs ∧ c ∉ voidChars ∧ c ≠ ']' := by
  cases h with
  | boolean n b => cases b <;> exact ⟨_, _, rfl, by decide, by decide⟩
  | integer n hlow hhigh =>
    rename_i i
    obtain ⟨c, cs, hcons, hc⟩ := integerForm_eq_cons i
    have hne := ne_of_numeral hc
    exact ⟨c, cs, hcons, by simp [voidChars, hne], hne _ (by decide) (by decide)⟩
  | text n s =>
    obtain ⟨c, cs, hcons, rfl | rfl⟩ := textForm_eq_cons s
    · exact ⟨_, cs, hcons, by decide, by decide⟩
    · exact ⟨_, cs, hcons, by decide, by decide⟩
  | @list n vs hvs =>
    refine ⟨'[', (listForm (itemForms vs)).tail, ?_, by decide, by decide⟩
    unfold valueForm
    generalize itemForms vs = fs
    match fs with
    | [] => rfl
    | [_] => rfl
    | _ :: _ :: _ => rfl

theorem Ends.head?_ne_mark (h : Ends rest) : rest.head? ≠ some '"' ∧ rest.head? ≠ some '\'' := by
  cases h <;> simp

/-- What begins with a digit or a minus sign is neither a text nor a truth value. -/
theorem scalar_eq_number {c : Char} {cs : List Char} (hc : c = '-' ∨ c.isDigit = true)
    (hmoment : momentText (c :: cs) = none) : scalar (c :: cs) = number (c :: cs) := by
  have hne := ne_of_numeral hc
  have ht : c ≠ 't' := hne 't' (by decide) (by decide)
  have hf : c ≠ 'f' := hne 'f' (by decide) (by decide)
  have hquote : c ≠ '"' := hne '"' (by decide) (by decide)
  have happ : c ≠ '\'' := hne '\'' (by decide) (by decide)
  have htext : text (c :: cs) = none := by
    rw [text_eq_oneLine (by simp [hquote]) (by simp [happ])]
    simp [oneLine, hquote, happ]
  rw [scalar]
  · simp [htext, hmoment]
  · simp [ht]
  · simp [hf]

/-- **An integer, a text or a truth value is read back.** -/
theorem scalar_integerForm {i : Int} (hlow : -0x8000000000000000 ≤ i) (hhigh : i < 0x8000000000000000) (h : Ends rest) :
    scalar (integerForm i ++ rest) = some (.integer i, rest) := by
  obtain ⟨c, cs, hcons, hc⟩ := integerForm_eq_cons i
  have hmoment := momentText_integerForm i h
  have hnumber := number_integerForm hlow hhigh h
  rw [hcons, List.cons_append] at hmoment hnumber ⊢
  rw [scalar_eq_number hc hmoment, hnumber]

theorem scalar_textForm (s : String) (h : Ends rest) : scalar (textForm s ++ rest) = some (.text s, rest) := by
  have htext := text_textForm s h.head?_ne_mark.1 h.head?_ne_mark.2
  obtain ⟨c, cs, hcons, hc⟩ := textForm_eq_cons s
  rw [hcons, List.cons_append] at htext ⊢
  rw [scalar]
  · simp [htext]
  · rcases hc with rfl | rfl <;> simp
  · rcases hc with rfl | rfl <;> simp

/-! ## Lists -/

/-- One more item, with what follows it. -/
theorem items_cons {value : Reader Value} {n : Nat} {cs form after : List Char} {v : Value}
    (hskip : skipVoid false cs = form ++ after) (hstart : ∃ c tail, form = c :: tail ∧ c ∉ voidChars ∧ c ≠ ']')
    (hread : value (form ++ after) = some (v, after)) :
    items value (n + 1) cs =
      match skipVoid false after with
      | ',' :: rest => (items value n rest).bind fun (vs, rest) => some (v :: vs, rest)
      | ']' :: rest => some ([v], rest)
      | _ => none := by
  obtain ⟨c, tail, rfl, _, hclose⟩ := hstart
  rw [items, hskip, List.cons_append]
  split
  · rename_i heq
    exact absurd (List.cons.inj heq).1 hclose
  · rw [← List.cons_append, hread]
    rfl

/-- The lines of a list of several items. -/
def itemLines (forms : List (List Char)) : List Char :=
  forms.flatMap fun item => List.replicate 4 ' ' ++ item ++ [',', '\n']

/-- **Items are read back** from lines of their own, when each is read back. -/
theorem items_itemLines {value : Reader Value} {vs : List Value} (rest : List Char)
    (hread : ∀ v ∈ vs, ∀ rest, Ends rest → value (valueForm v ++ rest) = some (v, rest))
    (hstart : ∀ v ∈ vs, ∃ c cs, valueForm v = c :: cs ∧ c ∉ voidChars ∧ c ≠ ']') {n : Nat}
    (hn : vs.length < n) : items value n ('\n' :: (itemLines (itemForms vs) ++ ']' :: rest)) = some (vs, rest) := by
  induction vs generalizing n with
  | nil =>
    obtain ⟨n, rfl⟩ := Nat.exists_eq_succ_of_ne_zero (Nat.ne_zero_of_lt hn)
    simp [items, itemForms, itemLines, skipVoid]
  | cons v vs ih =>
    obtain ⟨n, rfl⟩ := Nat.exists_eq_succ_of_ne_zero (Nat.ne_zero_of_lt hn)
    have hv := hread v List.mem_cons_self (',' :: '\n' :: (itemLines (itemForms vs) ++ ']' :: rest)) (.item _)
    have hvs := ih (fun w hw => hread w (List.mem_cons_of_mem _ hw)) (fun w hw => hstart w (List.mem_cons_of_mem _ hw))
      (n := n) (by simpa using hn)
    have hskip : skipVoid false ('\n' :: (itemLines (itemForms (v :: vs)) ++ ']' :: rest)) =
        valueForm v ++ ',' :: '\n' :: (itemLines (itemForms vs) ++ ']' :: rest) := by
      obtain ⟨c, cs, hcons, hc, _⟩ := hstart v List.mem_cons_self
      have hgap := skipVoid_cons hc (cs ++ ',' :: '\n' :: (itemLines (itemForms vs) ++ ']' :: rest))
      simpa [itemLines, itemForms, skipVoid, hcons] using hgap
    rw [items_cons hskip (hstart v List.mem_cons_self) hv]
    simp [skipVoid, hvs]

theorem length_le_length_itemLines (forms : List (List Char)) : forms.length ≤ (itemLines forms).length := by
  induction forms with
  | nil => exact Nat.le_refl 0
  | cons form forms ih =>
    simp only [itemLines, List.flatMap_cons, List.length_append, List.length_cons, List.length_nil] at ih ⊢
    omega

theorem length_itemForms (vs : List Value) : (itemForms vs).length = vs.length := by
  induction vs with
  | nil => rfl
  | cons v vs ih => simp [itemForms, ih]

/-- A list is read back when its items are. -/
theorem items_listForm {value : Reader Value} {vs : List Value}
    (hread : ∀ v ∈ vs, ∀ rest, Ends rest → value (valueForm v ++ rest) = some (v, rest))
    (hstart : ∀ v ∈ vs, ∃ c cs, valueForm v = c :: cs ∧ c ∉ voidChars ∧ c ≠ ']') (rest : List Char) :
    ∃ cs, listForm (itemForms vs) = '[' :: cs ∧
      items value ((cs ++ rest).length + 1) (cs ++ rest) = some (vs, rest) := by
  match vs with
  | [] => exact ⟨_, rfl, by simp [items, skipVoid]⟩
  | [v] =>
    refine ⟨valueForm v ++ [']'], rfl, ?_⟩
    have hv := hread v List.mem_cons_self (']' :: rest) (.list rest)
    have hskip : skipVoid false (valueForm v ++ [']'] ++ rest) = valueForm v ++ ']' :: rest := by
      obtain ⟨c, cs, hcons, hc, _⟩ := hstart v List.mem_cons_self
      have hgap := skipVoid_cons hc (cs ++ ']' :: rest)
      simpa [hcons] using hgap
    rw [items_cons hskip (hstart v List.mem_cons_self) hv]
    simp [skipVoid]
  | v :: w :: vs =>
    refine ⟨'\n' :: (itemLines (itemForms (v :: w :: vs)) ++ [']']), rfl, ?_⟩
    have hlength := length_le_length_itemLines (itemForms (v :: w :: vs))
    rw [length_itemForms] at hlength
    have hlines := items_itemLines rest hread hstart
      (n := ('\n' :: (itemLines (itemForms (v :: w :: vs)) ++ [']']) ++ rest).length + 1) (by simp at hlength ⊢; omega)
    simpa using hlines

/-! ## All values -/

theorem value_eq_scalar {c : Char} (hlist : c ≠ '[') (htable : c ≠ '{') (n : Nat) (cs : List Char) :
    value n (c :: cs) = scalar (c :: cs) := by
  cases n <;> simp [value, hlist, htable]

/-- **A written value is read back**, whatever follows it. -/
theorem value_valueForm {n : Nat} {v : Value} (h : Plain n v) {rest : List Char} (hends : Ends rest) :
    value n (valueForm v ++ rest) = some (v, rest) := by
  induction h generalizing rest with
  | boolean n b => cases n <;> cases b <;> simp [value, valueForm, scalar]
  | @integer n i hlow hhigh =>
    have hscalar := scalar_integerForm hlow hhigh hends
    obtain ⟨c, cs, hcons, hc⟩ := integerForm_eq_cons i
    simp only [valueForm]
    rw [hcons, List.cons_append] at hscalar ⊢
    have hne := ne_of_numeral hc
    rw [value_eq_scalar (hne _ (by decide) (by decide)) (hne _ (by decide) (by decide)), hscalar]
  | text n s =>
    have hscalar := scalar_textForm s hends
    obtain ⟨c, cs, hcons, hc⟩ := textForm_eq_cons s
    simp only [valueForm]
    rw [hcons, List.cons_append] at hscalar ⊢
    have hne : c ≠ '[' ∧ c ≠ '{' := by rcases hc with rfl | rfl <;> decide
    rw [value_eq_scalar hne.1 hne.2, hscalar]
  | @list n vs hvs ih =>
    obtain ⟨cs, hform, hitems⟩ := items_listForm (fun v hv rest hends => ih v hv hends)
      (fun v hv => (hvs v hv).valueForm_eq_cons) rest
    simp only [valueForm, hform, List.cons_append, value, hitems, Option.map_some]

end GatewayRegistrar.Toml
