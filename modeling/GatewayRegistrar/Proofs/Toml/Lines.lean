import GatewayRegistrar.Proofs.Toml.Values

/-!
# Reading written lines

The document of a table is a list of blocks, each with the header of a table and the entries of that table that are no
tables themselves (`sectionsOf_eq_map_text`). A block is read as its lines (`Block.Written.readsAs`), and so is a document,
where blank lines stand between the blocks (`reads_intercalate`).
-/

namespace GatewayRegistrar.Toml

/-! ## Paths -/

/-- How a key begins. -/
theorem keyForm_eq_cons (k : String) : ∃ c cs, keyForm k = c :: cs ∧ c ∉ voidChars ∧ c ≠ '[' := by
  unfold keyForm
  simp only
  split
  · rename_i hplain
    simp only [Bool.and_eq_true, Bool.not_eq_true', List.isEmpty_eq_false_iff, List.all_eq_true] at hplain
    obtain ⟨c, cs, hcons⟩ := List.exists_cons_of_ne_nil hplain.1
    have hc : isPlainKeyChar c = true := hplain.2 c (hcons ▸ List.mem_cons_self)
    have hne : ∀ x : Char, isPlainKeyChar x = false → c ≠ x := by rintro x hx rfl; rw [hc] at hx; cases hx
    have hall : voidChars.all (!isPlainKeyChar ·) = true := by decide
    have hvoid : ∀ x ∈ voidChars, isPlainKeyChar x = false := fun x hx => by simpa using List.all_eq_true.1 hall x hx
    exact ⟨c, cs, hcons, fun hmem => hne c (hvoid c hmem) rfl, hne _ (by decide)⟩
  · split
    · exact ⟨_, _, rfl, by decide, by decide⟩
    · exact ⟨_, _, rfl, by decide, by decide⟩

theorem skipBlanks_keyForm (k : String) (rest : List Char) : skipBlanks (keyForm k ++ rest) = keyForm k ++ rest := by
  obtain ⟨c, cs, hcons, hc, _⟩ := keyForm_eq_cons k
  rw [hcons, List.cons_append, skipBlanks_cons hc]

/-- A key with no further key behind it. -/
theorem dottedKeys_last (n : Nat) (k : String) (rest : List Char) {after : List Char} {c : Char}
    (hrest : ∀ c, rest.head? = some c → isBareKeyChar c = false) (hskip : skipBlanks rest = c :: after) (hc : c ≠ '.') :
    dottedKeys (n + 1) (keyForm k ++ rest) = some ([k], c :: after) := by
  simp [dottedKeys, skipBlanks_keyForm, key_keyForm k rest hrest, hskip, hc]

/-- **The keys of a header are read back.** -/
theorem dottedKeys_intercalate {ks : List String} (hne : ks ≠ []) {n : Nat} (hn : ks.length ≤ n) (rest : List Char) :
    dottedKeys n (List.intercalate ['.'] (ks.map keyForm) ++ ']' :: rest) = some (ks, ']' :: rest) := by
  induction ks generalizing n with
  | nil => exact absurd rfl hne
  | cons k ks ih =>
    obtain ⟨n, rfl⟩ := Nat.exists_eq_succ_of_ne_zero (n := n) (by simp at hn; omega)
    cases ks with
    | nil => simpa using dottedKeys_last n k (']' :: rest) (by simp; decide) rfl (by decide)
    | cons k' ks =>
      have hkey := key_keyForm k ('.' :: (List.intercalate ['.'] ((k' :: ks).map keyForm) ++ ']' :: rest))
        (by simp; decide)
      have hrest := ih (n := n) (by simp) (by simpa using hn)
      have hform : List.intercalate ['.'] ((k :: k' :: ks).map keyForm) ++ ']' :: rest =
          keyForm k ++ '.' :: (List.intercalate ['.'] ((k' :: ks).map keyForm) ++ ']' :: rest) := by
        simp [List.intercalate]
      rw [hform, dottedKeys, skipBlanks_keyForm, hkey]
      simp only [Option.bind_eq_bind, Option.bind_some, skipBlanks_cons (c := '.') (by decide), hrest]

/-- How the keys of a header begin. -/
theorem intercalate_keyForm_eq_cons {ks : List String} (hne : ks ≠ []) :
    ∃ c cs, List.intercalate ['.'] (ks.map keyForm) = c :: cs ∧ c ≠ '[' := by
  obtain ⟨k, ks, rfl⟩ := List.exists_cons_of_ne_nil hne
  obtain ⟨c, cs, hcons, _, hc⟩ := keyForm_eq_cons k
  cases ks with
  | nil => exact ⟨c, cs, by simpa using hcons, hc⟩
  | cons k' ks =>
    exact ⟨c, cs ++ '.' :: List.intercalate ['.'] ((k' :: ks).map keyForm), by simp [List.intercalate, hcons], hc⟩

theorem path_header (p : Path) (hp : p.keys.length < pathLimit) (rest : List Char) :
    path (List.intercalate ['.'] (p.keys.map keyForm) ++ ']' :: rest) = some (p, ']' :: rest) := by
  have hkeys := dottedKeys_intercalate (by simp [Path.keys]) (Nat.le_pred_of_lt hp) rest
  simp only [path, Nat.pred_eq_sub_one] at hkeys ⊢
  rw [hkeys]
  simp [Path.keys]

theorem path_entry (k : String) (rest : List Char) :
    path (keyForm k ++ [' ', '=', ' '] ++ rest) = some (⟨[], k⟩, '=' :: ' ' :: rest) := by
  have hkey := dottedKeys_last (pathLimit - 2) k (' ' :: '=' :: ' ' :: rest) (by simp; decide) rfl (by decide)
  simp only [List.append_assoc, List.cons_append, List.nil_append, path]
  rw [show pathLimit - 1 = pathLimit - 2 + 1 from rfl, hkey]
  rfl

/-! ## Lines -/

theorem lineEnd?_feed (rest : List Char) : lineEnd? ('\n' :: rest) = some rest := rfl

/-- How a header is read. -/
theorem line_header (p : Path) (hp : p.keys.length < pathLimit) (rest : List Char) :
    line (headerLine p.keys ++ rest) = some (.table p, rest) := by
  have hpath := path_header p hp ('\n' :: rest)
  have hform : headerLine p.keys ++ rest =
      '[' :: (List.intercalate ['.'] (p.keys.map keyForm) ++ ']' :: '\n' :: rest) := by
    simp [headerLine]
  have hne : p.keys ≠ [] := by simp [Path.keys]
  have hopen : ∀ tail, List.intercalate ['.'] (p.keys.map keyForm) ++ ']' :: '\n' :: rest ≠ '[' :: tail := by
    obtain ⟨c, cs, hcons, hc⟩ := intercalate_keyForm_eq_cons hne
    simp [hcons, hc]
  rw [hform]
  unfold line
  split
  · rename_i heq
    exact absurd (List.cons.inj heq).2 (hopen _)
  · rename_i heq
    cases heq
    rw [hpath]
    simp [lineEnd?_feed]
  · rename_i hno
    exact absurd rfl (hno _)

/-- How an entry is read. -/
theorem line_entry (k : String) {v : Value} (hv : Plain nestingLimit v) (rest : List Char) :
    line (keyForm k ++ [' ', '=', ' '] ++ valueForm v ++ '\n' :: rest) = some (.entry ⟨[], k⟩ v, rest) := by
  have hpath := path_entry k (valueForm v ++ '\n' :: rest)
  have hvalue := value_valueForm hv (.line rest)
  have hskip : skipBlanks (' ' :: (valueForm v ++ '\n' :: rest)) = valueForm v ++ '\n' :: rest := by
    obtain ⟨c, cs, hcons, hc, _⟩ := hv.valueForm_eq_cons
    rw [hcons, List.cons_append]
    exact skipBlanks_cons hc _
  have hassign : assignment (value nestingLimit) (keyForm k ++ [' ', '=', ' '] ++ valueForm v ++ '\n' :: rest) =
      some ((⟨[], k⟩, v), '\n' :: rest) := by
    rw [List.append_assoc _ (valueForm v)]
    simp only [assignment, hpath, Option.bind_eq_bind, Option.bind_some, hskip, hvalue, Option.map_some]
  obtain ⟨c, cs, hcons, _, hc⟩ := keyForm_eq_cons k
  rw [hcons] at hassign ⊢
  simp only [List.cons_append] at hassign ⊢
  rw [line]
  · rw [hassign]
    simp [lineEnd?_feed]
  · simp [hc]
  · simp [hc]

/-- A text that is read as some lines, with any bound on their number that is large enough. -/
def Reads (cs : List Char) (ls : List Line) : Prop := ∀ n, cs.length < n → lines? n cs = some ls

theorem reads_nil : Reads [] [] := by
  intro n hn
  obtain ⟨n, rfl⟩ := Nat.exists_eq_succ_of_ne_zero (Nat.ne_zero_of_lt hn)
  rfl

/-- A blank line is no line. -/
theorem Reads.blank {cs : List Char} {ls : List Line} (h : Reads cs ls) : Reads ('\n' :: cs) ls := by
  intro n hn
  obtain ⟨n, rfl⟩ := Nat.exists_eq_succ_of_ne_zero (Nat.ne_zero_of_lt hn)
  have hcs := h (n + 1) (by simp at hn; omega)
  rwa [lines?] at hcs ⊢

/-- One more line. -/
theorem Reads.cons {form rest : List Char} {l : Line} {ls : List Line} (hskip : ∃ c cs, form = c :: cs ∧ c ∉ voidChars)
    (hline : line (form ++ rest) = some (l, rest)) (h : Reads rest ls) : Reads (form ++ rest) (l :: ls) := by
  intro n hn
  obtain ⟨n, rfl⟩ := Nat.exists_eq_succ_of_ne_zero (Nat.ne_zero_of_lt hn)
  obtain ⟨c, cs, rfl, hc⟩ := hskip
  have hrest := h n (by simp at hn; omega)
  rw [lines?, List.cons_append, skipVoid_cons hc]
  rw [List.cons_append] at hline
  simp [hline, hrest]

/-! ## Blocks -/

/-- The header of a table, with the entries under it. -/
structure Block where
  path : Path
  leaves : List (String × Value)

/-- The entries that stand under the header of their table. -/
def isLeaf : Value → Bool
  | .null | .table _ => false
  | _ => true

mutual

/-- The blocks of a value under a path, when it is a table. -/
def blocksOf (p : Path) : Value → List Block
  | .table es => (if hasSection es then [⟨p, es.filter (isLeaf ·.2)⟩] else []) ++ blocks p.keys es
  | _ => []

/-- The blocks of the tables among the entries. -/
def blocks (keys : List String) : List (String × Value) → List Block
  | [] => []
  | (k, v) :: es => blocksOf ⟨keys, k⟩ v ++ blocks keys es

end

namespace Block

/-- The block as it is written. -/
def text (b : Block) : List Char := headerLine b.path.keys ++ entryLines b.leaves

/-- The lines of the block. -/
def lines (b : Block) : List Line := .table b.path :: b.leaves.map fun e => .entry ⟨[], e.1⟩ e.2

end Block

theorem entryLines_cons (k : String) (v : Value) (es : List (String × Value)) :
    entryLines ((k, v) :: es) =
      if isLeaf v then keyForm k ++ [' ', '=', ' '] ++ valueForm v ++ '\n' :: entryLines es else entryLines es := by
  cases v <;> rfl

/-- Only entries that are no tables have lines. -/
theorem entryLines_filter (es : List (String × Value)) : entryLines (es.filter (isLeaf ·.2)) = entryLines es := by
  induction es with
  | nil => rfl
  | cons e es ih =>
    obtain ⟨k, v⟩ := e
    cases hv : isLeaf v <;> simp [entryLines_cons, hv, ih]

mutual

/-- **A document is the text of its blocks.** -/
theorem sectionsOf_eq_map_text (p : Path) : ∀ v : Value, sectionsOf p.keys v = (blocksOf p v).map Block.text
  | .table es => by
    simp only [sectionsOf, blocksOf, List.map_append, subsections_eq_map_text]
    split <;> simp [Block.text, entryLines_filter]
  | .null | .boolean _ | .integer _ | .float _ | .text _ | .list _ => by simp [sectionsOf, blocksOf]

theorem subsections_eq_map_text (keys : List String) :
    ∀ es : List (String × Value), subsections keys es = (blocks keys es).map Block.text
  | [] => by simp [subsections, blocks]
  | (k, v) :: es => by
    have hv := sectionsOf_eq_map_text ⟨keys, k⟩ v
    simp only [Path.keys] at hv
    simp only [subsections, blocks, List.map_append, hv, subsections_eq_map_text keys es]

end

theorem Plain.isLeaf {n : Nat} {v : Value} (h : Plain n v) : isLeaf v = true := by
  cases h <;> rfl

/-- A text that is read as some lines, whatever is read behind it. -/
def ReadsAs (cs : List Char) (ls : List Line) : Prop := ∀ rest more, Reads rest more → Reads (cs ++ rest) (ls ++ more)

/-- **Entries are read back.** -/
theorem readsAs_entryLines {es : List (String × Value)} (hes : ∀ e ∈ es, Plain nestingLimit e.2) :
    ReadsAs (entryLines es) (es.map fun e => .entry ⟨[], e.1⟩ e.2) := by
  intro rest more hrest
  induction es with
  | nil => exact hrest
  | cons e es ih =>
    obtain ⟨k, v⟩ := e
    have hv : Plain nestingLimit v := hes _ List.mem_cons_self
    have hmore := ih fun e he => hes e (List.mem_cons_of_mem _ he)
    have hline := line_entry k hv (entryLines es ++ rest)
    obtain ⟨c, cs, hcons, hc, _⟩ := keyForm_eq_cons k
    have hform : entryLines ((k, v) :: es) ++ rest =
        (keyForm k ++ [' ', '=', ' '] ++ valueForm v ++ ['\n']) ++ (entryLines es ++ rest) := by
      simp [entryLines_cons, hv.isLeaf]
    rw [hform]
    refine .cons ⟨c, _, by rw [hcons]; rfl, hc⟩ ?_ hmore
    simpa using hline

/-- What a block has to be for its lines to be read back. -/
structure Block.Written (b : Block) : Prop where
  path : b.path.keys.length < pathLimit
  leaves : ∀ e ∈ b.leaves, Plain nestingLimit e.2

/-- **A block is read as its lines.** -/
theorem Block.Written.readsAs {b : Block} (h : b.Written) : ReadsAs b.text b.lines := by
  intro rest more hrest
  have hleaves := readsAs_entryLines h.leaves rest more hrest
  have hline := line_header b.path h.path (entryLines b.leaves ++ rest)
  have hstart : ∃ c cs, headerLine b.path.keys = c :: cs ∧ c ∉ voidChars := ⟨_, _, rfl, by decide⟩
  simpa [Block.text, Block.lines] using Reads.cons hstart hline hleaves

/-- **A document is read as the lines of its parts**, with blank lines between them. -/
theorem reads_intercalate {parts : List (List Char × List Line)} (h : ∀ p ∈ parts, ReadsAs p.1 p.2) :
    Reads (List.intercalate ['\n'] (parts.map (·.1))) (parts.flatMap (·.2)) := by
  induction parts with
  | nil => exact reads_nil
  | cons p parts ih =>
    have hp := h p List.mem_cons_self
    have hparts := ih fun q hq => h q (List.mem_cons_of_mem _ hq)
    cases parts with
    | nil => simpa using hp [] [] reads_nil
    | cons q parts => simpa [List.intercalate] using hp _ _ hparts.blank

/-- A document does not begin with the mark that is left out. -/
theorem Reads.withoutByteOrderMark {cs : List Char} {ls : List Line} (h : Reads cs ls) :
    withoutByteOrderMark cs = cs := by
  unfold Toml.withoutByteOrderMark
  split
  · -- the mark begins neither a header nor a key, so no line can be read
    rename_i rest
    have hkey : key ('\uFEFF' :: rest) = none := by
      have hbare : isBareKeyChar '\uFEFF' = false := by decide
      simp [key, oneLine, hbare]
    have hpath : path ('\uFEFF' :: rest) = none := by
      rw [path, show pathLimit - 1 = pathLimit - 2 + 1 from rfl, dottedKeys, skipBlanks_cons (by decide), hkey]
      rfl
    have hline : line ('\uFEFF' :: rest) = none := by
      simp [line, assignment, hpath]
    have hread := h _ (Nat.lt_succ_self _)
    rw [lines?, skipVoid_cons (by decide)] at hread
    simp [hline] at hread
  · rfl

end GatewayRegistrar.Toml
