import GatewayRegistrar.Proofs.Json.Scalars

/-!
# Reading written values

`Plain n v` says that `v` is made of null, truth values, integers of 64 bits, texts, and lists and tables that stand in
one another at most `n` deep. Such a value is read back from its written form, in either layout and before anything that
may follow a value (`value_write`); the same holds where only parts of it are asked for and it has no others
(`readsBack_fields`, `readsBack_items`). So the text of a plain value is read as that value (`parse?_pretty_line`,
`parse?_compact`), and no two plain values have the same text (`compact_injective`).
-/

namespace GatewayRegistrar.Json

/-- Values that are written as they are read. -/
inductive Plain : Nat → Value → Prop
  | null (n : Nat) : Plain n .null
  | boolean (n : Nat) (b : Bool) : Plain n (.boolean b)
  | integer (n : Nat) {i : Int} : IsWord i → Plain n (.integer i)
  | text (n : Nat) (s : String) : Plain n (.text s)
  | list {n : Nat} {vs : List Value} : (∀ v ∈ vs, Plain n v) → Plain (n + 1) (.list vs)
  | table {n : Nat} {es : List (String × Value)} : (∀ e ∈ es, Plain n e.2) → Plain (n + 1) (.table es)

theorem plain_ofTexts {n : Nat} (ts : List String) : Plain (n + 1) (.ofTexts ts) := by
  refine .list fun v hv => ?_
  obtain ⟨t, _, rfl⟩ := List.mem_map.1 hv
  exact .text n t

theorem plain_table {n : Nat} {α : Type} {f : α → Value} (h : ∀ a, Plain n (f a)) (es : List (String × α)) :
    Plain (n + 1) (.table (es.map fun e => (e.1, f e.2))) := by
  refine .table fun e he => ?_
  obtain ⟨d, _, rfl⟩ := List.mem_map.1 he
  exact h d.2

theorem plain_ofTextTable {n : Nat} (es : List (String × String)) : Plain (n + 1) (.ofTextTable es) :=
  plain_table (.text n) es

theorem plain_ofText? {n : Nat} (s? : Option String) : Plain n (.ofText? s?) := by
  cases s?
  · exact .null n
  · exact .text n _

variable {rest : List Char} {l : Layout}

/-! ## Blanks -/

theorem skipBlanks_cons {c : Char} (hc : isJsonBlank c = false) (cs : List Char) : skipBlanks (c :: cs) = c :: cs := by
  simp [skipBlanks, hc]

theorem skipBlanks_append {blanks : List Char} (h : ∀ c ∈ blanks, isJsonBlank c = true) (cs : List Char) :
    skipBlanks (blanks ++ cs) = skipBlanks cs :=
  List.dropWhile_append_of_pos h

theorem skipBlanks_lineStart (l : Layout) (cs : List Char) : skipBlanks (l.lineStart ++ cs) = skipBlanks cs := by
  refine skipBlanks_append (fun c hc => ?_) cs
  cases l with
  | compact => cases hc
  | indented n =>
    rcases List.mem_cons.1 hc with rfl | hc
    · rfl
    · rw [List.eq_of_mem_replicate hc]
      rfl

/-- A colon, and a blank behind it at most. -/
theorem colon_eq_cons (l : Layout) (cs : List Char) :
    ∃ after, l.colon ++ cs = ':' :: after ∧ skipBlanks after = skipBlanks cs := by
  cases l with
  | compact => exact ⟨cs, rfl, rfl⟩
  | indented n => exact ⟨' ' :: cs, rfl, rfl⟩

@[simp] theorem colon_deeper (l : Layout) : l.deeper.colon = l.colon := by
  cases l <;> rfl

/-! ## What stands around values -/

theorem ends_cons {c : Char} (hc : c ∈ [',', ']', '\x7d', '\n']) (cs : List Char) : Ends (c :: cs) := by
  rintro _ ⟨⟩
  simp only [List.mem_cons, List.not_mem_nil, or_false] at hc
  rcases hc with rfl | rfl | rfl | rfl <;> decide

/-- The sign that closes a list or a table, on a line of its own or not. -/
theorem ends_close {c : Char} (hc : c ∈ [',', ']', '\x7d', '\n']) (l : Layout) (cs : List Char) :
    Ends (l.lineStart ++ c :: cs) := by
  cases l with
  | compact => exact ends_cons hc cs
  | indented n => exact ends_cons (by decide) _

/-- How a plain value begins: with no blank, and not with the sign that would close a list. -/
theorem Plain.write_eq_cons {n : Nat} {v : Value} (h : Plain n v) (l : Layout) :
    ∃ c cs, write l v = c :: cs ∧ isJsonBlank c = false ∧ c ≠ ']' := by
  cases h with
  | null => exact ⟨_, _, rfl, by decide, by decide⟩
  | boolean n b => cases b <;> exact ⟨_, _, rfl, by decide, by decide⟩
  | integer n hn =>
    rename_i i
    obtain ⟨c, cs, hcons, hc⟩ := integerText_eq_cons i
    have hne := ne_of_numeral hc
    refine ⟨c, cs, hcons, ?_, hne ']' (by decide) (by decide)⟩
    simp [isJsonBlank, hne ' ', hne '\n', hne '\t', hne '\r']
  | text n s => exact ⟨_, _, rfl, by decide, by decide⟩
  | @list n vs _ => cases vs <;> exact ⟨_, _, rfl, by decide, by decide⟩
  | @table n es _ => cases es <;> exact ⟨_, _, rfl, by decide, by decide⟩

/-! ## Lists -/

/-- The reader reads this value back, in this layout and before anything that may follow. -/
def ReadsBack (value : Reader Value) (l : Layout) (v : Value) : Prop :=
  (∃ c cs, write l v = c :: cs ∧ isJsonBlank c = false ∧ c ≠ ']') ∧
    ∀ rest, Ends rest → value (write l v ++ rest) = some (v, rest)

theorem ReadsBack.skipBlanks_append {value : Reader Value} {v : Value} (h : ReadsBack value l v) (cs : List Char) :
    skipBlanks (write l v ++ cs) = write l v ++ cs := by
  obtain ⟨⟨c, form, hform, hblank, _⟩, _⟩ := h
  rw [hform]
  exact skipBlanks_cons hblank _

/-- **Items are read back** up to the closing bracket. -/
theorem items_write {value : Reader Value} {v : Value} {vs : List Value} (h : ∀ w ∈ v :: vs, ReadsBack value l w)
    (outer : Layout) (rest : List Char) {n : Nat} (hn : vs.length < n) :
    items value n (l.lineStart ++ (write l v ++ (writeItems l vs ++ (outer.lineStart ++ ']' :: rest)))) =
      some (v :: vs, rest) := by
  induction vs generalizing v n with
  | nil =>
    obtain ⟨n, rfl⟩ := Nat.exists_eq_succ_of_ne_zero (Nat.ne_zero_of_lt hn)
    have hv := h v List.mem_cons_self
    have hread := hv.2 (outer.lineStart ++ ']' :: rest) (ends_close (by decide) outer rest)
    have hclose : skipBlanks (outer.lineStart ++ ']' :: rest) = ']' :: rest := by
      rw [skipBlanks_lineStart]
      exact skipBlanks_cons (by decide) rest
    rw [items, skipBlanks_lineStart, writeItems, List.nil_append, hv.skipBlanks_append, hread]
    simp [hclose]
  | cons w ws ih =>
    obtain ⟨n, rfl⟩ := Nat.exists_eq_succ_of_ne_zero (Nat.ne_zero_of_lt hn)
    have hv := h v List.mem_cons_self
    have hmore := ih (fun x hx => h x (List.mem_cons_of_mem _ hx)) (n := n) (by simpa using hn)
    have hread := hv.2 (writeItems l (w :: ws) ++ (outer.lineStart ++ ']' :: rest)) (ends_cons (by decide) _)
    have hcomma : writeItems l (w :: ws) ++ (outer.lineStart ++ ']' :: rest) =
        ',' :: (l.lineStart ++ (write l w ++ (writeItems l ws ++ (outer.lineStart ++ ']' :: rest)))) := by
      simp [writeItems]
    rw [items, skipBlanks_lineStart, hv.skipBlanks_append, hread, hcomma]
    simp [skipBlanks_cons, isJsonBlank, hmore]

theorem length_le_length_writeItems (l : Layout) (vs : List Value) : vs.length ≤ (writeItems l vs).length := by
  induction vs with
  | nil => exact Nat.le_refl 0
  | cons v vs ih =>
    simp only [writeItems, List.length_cons, List.length_append, List.cons_append]
    omega

/-- **A list is read back** when its items are. -/
theorem listOf_write {value : Reader Value} {vs : List Value} (h : ∀ v ∈ vs, ReadsBack value l.deeper v)
    (rest : List Char) :
    ∃ cs, write l (.list vs) ++ rest = '[' :: cs ∧ listOf value cs = some (.list vs, rest) := by
  cases vs with
  | nil => exact ⟨']' :: rest, rfl, rfl⟩
  | cons v vs =>
    obtain ⟨⟨c, form, hform, hblank, hbracket⟩, _⟩ := h v List.mem_cons_self
    refine ⟨l.deeper.lineStart ++ (write l.deeper v ++ (writeItems l.deeper vs ++ (l.lineStart ++ ']' :: rest))),
      by simp [write], ?_⟩
    have hlength := length_le_length_writeItems l.deeper vs
    have hitems := items_write h l rest (n := (l.deeper.lineStart ++ (write l.deeper v ++ (writeItems l.deeper vs ++
      (l.lineStart ++ ']' :: rest)))).length + 1) (by simp only [List.length_append]; omega)
    have hstart : skipBlanks (l.deeper.lineStart ++ (write l.deeper v ++ (writeItems l.deeper vs ++
        (l.lineStart ++ ']' :: rest)))) = c :: (form ++ (writeItems l.deeper vs ++ (l.lineStart ++ ']' :: rest))) := by
      rw [skipBlanks_lineStart, hform]
      exact skipBlanks_cons hblank _
    rw [listOf, hstart, hitems]
    simp [hbracket]

/-! ## Tables -/

/-- An entry is read back, and what follows it decides: a comma, behind which there are more, or the closing brace. -/
theorem entries_cons {value : String → Reader Value} {e : String × Value} (h : ReadsBack (value e.1) l e.2)
    {after : List Char} (hafter : Ends after) (n : Nat) (tail : List Char) :
    (skipBlanks after = ',' :: tail →
      entries .exactly value (n + 1) (l.lineStart ++ (quoted e.1 ++ (l.colon ++ (write l e.2 ++ after)))) =
        (entries .exactly value n tail).map fun found => (e :: found.1, found.2)) ∧
    (skipBlanks after = '\x7d' :: tail →
      entries .exactly value (n + 1) (l.lineStart ++ (quoted e.1 ++ (l.colon ++ (write l e.2 ++ after)))) =
        some ([e], tail)) := by
  obtain ⟨behindColon, hcolon, hskip⟩ := colon_eq_cons l (write l e.2 ++ after)
  obtain ⟨key, hquote, hkey⟩ := quotedText_quoted e.1 (':' :: behindColon)
  rw [h.skipBlanks_append] at hskip
  have hread := h.2 after hafter
  rw [entries, skipBlanks_lineStart, hquote, hcolon, List.cons_append, skipBlanks_cons (by decide)]
  have hmark : skipBlanks (':' :: behindColon) = ':' :: behindColon := skipBlanks_cons (by decide) _
  constructor <;> intro hnext
  · cases hmore : entries .exactly value n tail <;> simp [hkey, hmark, hskip, hread, hnext, hmore]
  · simp [hkey, hmark, hskip, hread, hnext]

/-- **Entries are read back** up to the closing brace. -/
theorem entries_write {value : String → Reader Value} {e : String × Value} {es : List (String × Value)}
    (h : ∀ f ∈ e :: es, ReadsBack (value f.1) l f.2) (outer : Layout) (rest : List Char) {n : Nat}
    (hn : es.length < n) :
    entries .exactly value n (l.lineStart ++ (quoted e.1 ++ (l.colon ++ (write l e.2 ++ (writeEntries l es ++
      (outer.lineStart ++ '\x7d' :: rest)))))) = some (e :: es, rest) := by
  have hclose := ends_close (c := '\x7d') (by decide) outer rest
  induction es generalizing e n with
  | nil =>
    obtain ⟨n, rfl⟩ := Nat.exists_eq_succ_of_ne_zero (Nat.ne_zero_of_lt hn)
    have hbrace : skipBlanks (outer.lineStart ++ '\x7d' :: rest) = '\x7d' :: rest := by
      rw [skipBlanks_lineStart]
      exact skipBlanks_cons (by decide) rest
    rw [writeEntries, List.nil_append]
    exact (entries_cons (h e List.mem_cons_self) hclose n rest).2 hbrace
  | cons f fs ih =>
    obtain ⟨n, rfl⟩ := Nat.exists_eq_succ_of_ne_zero (Nat.ne_zero_of_lt hn)
    have hmore := ih (fun x hx => h x (List.mem_cons_of_mem _ hx)) (n := n) (by simpa using hn)
    have hcomma : writeEntries l (f :: fs) ++ (outer.lineStart ++ '\x7d' :: rest) =
        ',' :: (l.lineStart ++ (quoted f.1 ++ (l.colon ++ (write l f.2 ++ (writeEntries l fs ++
          (outer.lineStart ++ '\x7d' :: rest)))))) := by
      simp [writeEntries]
    rw [hcomma, (entries_cons (h e List.mem_cons_self) (ends_cons (by decide) _) n _).1 (skipBlanks_cons (by decide) _),
      hmore, Option.map_some]

theorem length_le_length_writeEntries (l : Layout) (es : List (String × Value)) :
    es.length ≤ (writeEntries l es).length := by
  induction es with
  | nil => exact Nat.le_refl 0
  | cons e es ih =>
    simp only [writeEntries, List.length_cons, List.length_append, List.cons_append]
    omega

/-- **A table is read back** when the values under its keys are. -/
theorem tableOf_write (value : String → Reader Value) {es : List (String × Value)}
    (h : ∀ e ∈ es, ReadsBack (value e.1) l.deeper e.2) (rest : List Char) :
    ∃ cs, write l (.table es) ++ rest = '\x7b' :: cs ∧ tableOf .exactly value cs = some (.table es, rest) := by
  cases es with
  | nil => exact ⟨'\x7d' :: rest, rfl, rfl⟩
  | cons e es =>
    refine ⟨l.deeper.lineStart ++ (quoted e.1 ++ (l.deeper.colon ++ (write l.deeper e.2 ++
      (writeEntries l.deeper es ++ (l.lineStart ++ '\x7d' :: rest))))), by simp [write], ?_⟩
    have hlength := length_le_length_writeEntries l.deeper es
    have hentries := entries_write h l rest (n := (l.deeper.lineStart ++ (quoted e.1 ++ (l.deeper.colon ++
      (write l.deeper e.2 ++ (writeEntries l.deeper es ++ (l.lineStart ++ '\x7d' :: rest)))))).length + 1)
      (by simp only [List.length_append]; omega)
    obtain ⟨key, hquote, _⟩ := quotedText_quoted e.1 []
    rw [tableOf, skipBlanks_lineStart, hentries, hquote, List.cons_append, skipBlanks_cons (by decide)]
    simp

/-! ## All values -/

theorem value_eq_scalar {c : Char} (hlist : c ≠ '[') (htable : c ≠ '\x7b') (m : Manner) (n : Nat) (cs : List Char) :
    value m n (c :: cs) = scalar m (c :: cs) := by
  cases n <;> simp [value, hlist, htable]

theorem scalar_integerText {n : Int} (hn : IsWord n) (hends : Ends rest) :
    scalar .exactly (integerText n ++ rest) = some (.integer n, rest) := by
  have hnumber := number_integerText hn hends
  obtain ⟨c, cs, hcons, hc⟩ := integerText_eq_cons n
  have hne := ne_of_numeral hc
  rw [hcons, List.cons_append] at hnumber ⊢
  rw [scalar]
  · exact hnumber
  all_goals simp [hne 'n', hne 't', hne 'f', hne '"']

/-- **A plain value is read back** from its written form, whatever follows it. -/
theorem value_write {n : Nat} {v : Value} (h : Plain n v) (l : Layout) (hends : Ends rest) :
    value .exactly n (write l v ++ rest) = some (v, rest) := by
  induction h generalizing l rest with
  | null n => cases n <;> rfl
  | boolean n b => cases n <;> cases b <;> rfl
  | @integer n i hi =>
    have hscalar := scalar_integerText hi hends
    obtain ⟨c, cs, hcons, hc⟩ := integerText_eq_cons i
    have hne := ne_of_numeral hc
    simp only [write]
    rw [hcons, List.cons_append] at hscalar ⊢
    rw [value_eq_scalar (hne '[' (by decide) (by decide)) (hne '\x7b' (by decide) (by decide)), hscalar]
  | text n s =>
    obtain ⟨cs, hquote, htext⟩ := quotedText_quoted s rest
    simp only [write]
    rw [hquote, List.cons_append, value_eq_scalar (by decide) (by decide), scalar, htext]
    rfl
  | @list n vs hvs ih =>
    have hback : ∀ v ∈ vs, ReadsBack (value .exactly n) l.deeper v := fun v hv =>
      ⟨(hvs v hv).write_eq_cons l.deeper, fun rest hends => ih v hv l.deeper hends⟩
    obtain ⟨cs, hform, hread⟩ := listOf_write hback rest
    rw [hform]
    exact hread
  | @table n es hes ih =>
    have hback : ∀ e ∈ es, ReadsBack (value .exactly n) l.deeper e.2 := fun e he =>
      ⟨(hes e he).write_eq_cons l.deeper, fun rest hends => ih e he l.deeper hends⟩
    obtain ⟨cs, hform, hread⟩ := tableOf_write (fun _ => value .exactly n) hback rest
    rw [hform]
    exact hread

/-! ## What is asked for -/

theorem Plain.readsBack {n : Nat} {v : Value} (h : Plain n v) (l : Layout) : ReadsBack (value .exactly n) l v :=
  ⟨h.write_eq_cons l, fun _ hends => value_write h l hends⟩

theorem readsBack_whole {n : Nat} {v : Value} (h : Plain n v) (l : Layout) : ReadsBack (selected .whole n) l v :=
  h.readsBack l

/-- A table is read back where all its keys are asked for. -/
theorem readsBack_fields {n : Nat} {keys : List String} {es : List (String × Value)}
    (h : ∀ e ∈ es, e.1 ∈ keys ∧ Plain n e.2) (l : Layout) : ReadsBack (selected (.fields keys) (n + 1)) l (.table es) := by
  refine ⟨(Plain.table fun e he => (h e he).2).write_eq_cons l, fun rest _ => ?_⟩
  have hback : ∀ e ∈ es, ReadsBack (if e.1 ∈ keys then value .exactly n else unselected) l.deeper e.2 := fun e he => by
    simpa only [(h e he).1, ↓reduceIte] using (h e he).2.readsBack l.deeper
  obtain ⟨cs, hform, hread⟩ :=
    tableOf_write (fun key => if key ∈ keys then value .exactly n else unselected) hback rest
  rw [hform]
  exact hread

/-- A list is read back where what is asked for of each item is all of it. -/
theorem readsBack_items {n : Nat} {each : Selection} {vs : List Value} {l : Layout}
    (h : ∀ v ∈ vs, ReadsBack (selected each n) l.deeper v) : ReadsBack (selected (.items each) (n + 1)) l (.list vs) := by
  refine ⟨?_, fun rest _ => ?_⟩
  · cases vs <;> exact ⟨_, _, rfl, by decide, by decide⟩
  · obtain ⟨cs, hform, hread⟩ := listOf_write h rest
    rw [hform]
    exact hread

/-! ## Texts of values -/

theorem ends_of_blanks {blanks : List Char} (h : ∀ c ∈ blanks, isJsonBlank c = true) : Ends blanks := by
  intro c hc
  have hblank := h c (List.mem_of_mem_head? hc)
  simp only [isJsonBlank, Bool.or_eq_true, beq_iff_eq] at hblank
  rcases hblank with ((rfl | rfl) | rfl) | rfl <;> decide

/-- What is read by a selection that reads this value back. -/
theorem parseSelected?_write {selection : Selection} {v : Value}
    (h : ReadsBack (selected selection nestingLimit) l v) (blanks : List Char) (hblanks : ∀ c ∈ blanks, isJsonBlank c = true) :
    parseSelected? selection (String.ofList (write l v ++ blanks)) = some v := by
  have hread := h.2 blanks (ends_of_blanks hblanks)
  have hend : skipBlanks blanks = [] := by
    have hskip := skipBlanks_append hblanks []
    rwa [List.append_nil] at hskip
  simp [parseSelected?, h.skipBlanks_append, hread, hend]

/-- **The text of a plain value is read as that value.** -/
theorem parse?_compact {v : Value} (h : Plain nestingLimit v) : parse? (compact v) = some v := by
  have hread := parseSelected?_write (readsBack_whole h .compact) [] (by simp)
  rwa [List.append_nil] at hread

/-- The same for a text on several lines, with a line end behind it. -/
theorem parse?_pretty_line {v : Value} (h : Plain nestingLimit v) : parse? (pretty v ++ "\n") = some v := by
  have hread := parseSelected?_write (readsBack_whole h (.indented 0)) ['\n'] (by simp [isJsonBlank])
  rwa [String.ofList_append] at hread

/-- **Plain values with one text are equal.** -/
theorem compact_injective {v w : Value} (hv : Plain nestingLimit v) (hw : Plain nestingLimit w)
    (h : compact v = compact w) : v = w := by
  have hread := parse?_compact hv
  rw [h, parse?_compact hw] at hread
  exact (Option.some.inj hread).symm

end GatewayRegistrar.Json
