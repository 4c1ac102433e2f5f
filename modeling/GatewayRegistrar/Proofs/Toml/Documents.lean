import GatewayRegistrar.Proofs.Toml.Growth

/-!
# Reading written documents

A `Sheet` is a table that is fit to be written: plain values come before the tables in it, these are sheets themselves,
and no key stands twice. The blocks of a sheet grow into it (`Sheet.grows`) and are read back from their text
(`Sheet.written`), so **reading a document gives the table that was written** (`parse?_print`).
-/

namespace GatewayRegistrar.Toml

/-- Tables within a table, under their keys. -/
def tableEntries (tables : List (String × List (String × Value))) : List (String × Value) :=
  tables.map fun t => (t.1, .table t.2)

/-- Tables that are written as they are read, with tables in one another less than `n` deep. -/
inductive Sheet : Nat → List (String × Value) → Prop
  | mk {n : Nat} {leaves : List (String × Value)} {tables : List (String × List (String × Value))} :
      (∀ e ∈ leaves, Plain nestingLimit e.2) → (∀ t ∈ tables, Sheet n t.2) →
      (leaves.map (·.1) ++ tables.map (·.1)).Nodup → Sheet (n + 1) (leaves ++ tableEntries tables)

variable {n : Nat} {leaves : List (String × Value)} {tables : List (String × List (String × Value))}

/-- What remains of a sheet when entries are left out is a sheet. -/
theorem Sheet.filter {es : List (String × Value)} (h : Sheet n es) (p : String × Value → Bool) :
    Sheet n (es.filter p) := by
  cases h with
  | @mk n leaves tables hleaves htables hnodup =>
    have hfilter : (tableEntries tables).filter p = tableEntries (tables.filter fun t => p (t.1, .table t.2)) :=
      List.filter_map
    rw [List.filter_append, hfilter]
    refine .mk (fun e he => hleaves e (List.mem_of_mem_filter he)) (fun t ht => htables t (List.mem_of_mem_filter ht)) ?_
    exact hnodup.sublist ((List.filter_sublist.map _).append (List.filter_sublist.map _))

/-- Plain values with new keys can be put before a sheet. -/
theorem Sheet.append {es ds : List (String × Value)} (h : Sheet n es) (hds : ∀ d ∈ ds, Plain nestingLimit d.2)
    (hkeys : (ds.map (·.1) ++ es.map (·.1)).Nodup) : Sheet n (ds ++ es) := by
  cases h with
  | @mk n leaves tables hleaves htables hnodup =>
    rw [← List.append_assoc]
    refine .mk (fun e he => (List.mem_append.1 he).elim (hds e) (hleaves e)) htables ?_
    simpa [tableEntries, List.map_map, Function.comp_def] using hkeys

/-! ## Leaves -/

theorem filter_isLeaf (hleaves : ∀ e ∈ leaves, Plain nestingLimit e.2) :
    (leaves ++ tableEntries tables).filter (isLeaf ·.2) = leaves := by
  have htables : (tableEntries tables).filter (isLeaf ·.2) = [] := by
    refine List.filter_eq_nil_iff.2 fun e he => ?_
    obtain ⟨t, _, rfl⟩ := List.mem_map.1 he
    simp [isLeaf]
  rw [List.filter_append, htables, List.append_nil, List.filter_eq_self]
  exact fun e he => (hleaves e he).isLeaf

theorem blocks_leaves (hleaves : ∀ e ∈ leaves, Plain nestingLimit e.2) (keys : List String) :
    blocks keys leaves = [] := by
  induction leaves with
  | nil => rfl
  | cons e leaves ih =>
    have he := hleaves e List.mem_cons_self
    have hnone : blocksOf ⟨keys, e.1⟩ e.2 = [] := by
      obtain ⟨k, v⟩ := e
      cases he <;> rfl
    simp [blocks, hnone, ih fun f hf => hleaves f (List.mem_cons_of_mem _ hf)]

theorem branchesOf_leaves (hleaves : ∀ e ∈ leaves, Plain nestingLimit e.2) :
    branchesOf leaves = leafBranches leaves := by
  induction leaves with
  | nil => rfl
  | cons e leaves ih =>
    have he := hleaves e List.mem_cons_self
    have hleaf : branchOf e.2 = .leaf e.2 := by
      obtain ⟨k, v⟩ := e
      cases he <;> rfl
    have hrest := ih fun f hf => hleaves f (List.mem_cons_of_mem _ hf)
    simp only [branchesOf, hleaf, hrest]
    rfl

theorem keys_leafBranches (leaves : List (String × Value)) :
    (leafBranches leaves).map (·.1) = leaves.map (·.1) := by
  rw [leafBranches, List.map_map]
  rfl

/-- The first leaf has a line. -/
theorem entryLines_ne_nil (hleaves : ∀ e ∈ leaves, Plain nestingLimit e.2) (hne : leaves ≠ []) :
    entryLines leaves ≠ [] := by
  obtain ⟨⟨k, v⟩, leaves, rfl⟩ := List.exists_cons_of_ne_nil hne
  have hv : isLeaf v = true := (hleaves _ List.mem_cons_self).isLeaf
  simp [entryLines_cons, hv]

/-! ## Growing -/

section Growing

variable {ks : List String} {t es : Entries} {o : Origin} {plug : Entries → Entries} {k : String}

/-- The blocks of a table put it behind the entries to which its path leads. -/
def GrowsTable (inner : List (String × Value)) : Prop :=
  ∀ {ks : List String} {t es : Entries} {o : Origin} {plug : Entries → Entries} {k : String},
    Opens ks o plug → Leads ks t o es plug → k ∉ es.map (·.1) → ∀ opened, ∃ opened',
      ((blocksOf ⟨ks, k⟩ (.table inner)).flatMap Block.lines).foldlM Reading.take ⟨t, opened⟩ =
        some ⟨plug (es ++ [(k, branchOf (.table inner))]), opened'⟩

/-- Where each of some tables grows, all of them do, one behind the other. -/
theorem take_tables (h : Opens ks o plug) (ht : Leads ks t o es plug) (hgrows : ∀ t ∈ tables, GrowsTable t.2)
    (hkeys : (es.map (·.1) ++ tables.map (·.1)).Nodup) (opened : List String) :
    ∃ opened', ((blocks ks (tableEntries tables)).flatMap Block.lines).foldlM Reading.take ⟨t, opened⟩ =
      some ⟨if tables = [] then t else plug (es ++ branchesOf (tableEntries tables)), opened'⟩ := by
  induction tables generalizing t es opened with
  | nil => exact ⟨opened, rfl⟩
  | cons table tables ih =>
    have hk : table.1 ∉ es.map (·.1) := fun hmem =>
      (List.nodup_append.1 hkeys).2.2 table.1 hmem table.1 (by simp) rfl
    obtain ⟨opened₁, hfirst⟩ := hgrows table List.mem_cons_self h ht hk opened
    obtain ⟨opened₂, hrest⟩ := ih (h (es ++ [(table.1, branchOf (.table table.2))]))
      (fun t ht => hgrows t (List.mem_cons_of_mem _ ht)) (by simpa using hkeys) opened₁
    refine ⟨opened₂, ?_⟩
    have hblocks : blocks ks (tableEntries (table :: tables)) =
        blocksOf ⟨ks, table.1⟩ (.table table.2) ++ blocks ks (tableEntries tables) := by
      simp [tableEntries, blocks]
    have hbranches : branchesOf (tableEntries (table :: tables)) =
        (table.1, branchOf (.table table.2)) :: branchesOf (tableEntries tables) := by
      simp [tableEntries, branchesOf]
    rw [hblocks, List.flatMap_append, List.foldlM_append, hfirst, Option.bind_eq_bind, Option.bind_some, hrest,
      hbranches]
    cases tables with
    | nil => simp [tableEntries, branchesOf]
    | cons table' tables => simp

/-- **A sheet grows** from its blocks. -/
theorem Sheet.grows {inner : List (String × Value)} (h : Sheet n inner) : GrowsTable inner := by
  induction h with
  | @mk n leaves tables hleaves _ hnodup ih =>
    intro ks t es o plug k hopens hleads hk opened
    obtain ⟨hkeys, hkeys', _⟩ := List.nodup_append.1 hnodup
    have hlines : entryLines (leaves ++ tableEntries tables) = entryLines leaves := by
      rw [← entryLines_filter, filter_isLeaf hleaves]
    have hblocks : blocks (ks ++ [k]) (leaves ++ tableEntries tables) = blocks (ks ++ [k]) (tableEntries tables) := by
      rw [blocks_append, blocks_leaves hleaves, List.nil_append]
    cases hsection : hasSection (leaves ++ tableEntries tables) with
    | true =>
      have hblock := take_block hopens hleads hk hkeys opened
      have hinner := hopens.table hk .header
      obtain ⟨opened', htables⟩ := take_tables hinner (hinner (leafBranches leaves)) ih
        (by rwa [keys_leafBranches]) (ks ++ [k])
      refine ⟨opened', ?_⟩
      simp only [blocksOf, hsection, ↓reduceIte, filter_isLeaf hleaves, Path.keys, hblocks, List.flatMap_append,
        List.flatMap_cons, List.flatMap_nil, List.append_nil, List.foldlM_append, hblock, Option.bind_eq_bind,
        Option.bind_some, htables, branchOf, branchesOf_append, branchesOf_leaves hleaves]
      split
      · subst_vars
        simp [behind, tableEntries, branchesOf]
      · rfl
    | false =>
      -- a table without a section of its own has no leaves, and a table in it
      obtain ⟨hne, hnone⟩ : leaves ++ tableEntries tables ≠ [] ∧ entryLines (leaves ++ tableEntries tables) = [] := by
        simpa [hasSection] using hsection
      have hempty : leaves = [] := by
        by_contra hleaf
        exact entryLines_ne_nil hleaves hleaf (hlines ▸ hnone)
      subst hempty
      rw [List.nil_append] at hsection
      have htable : tables ≠ [] := by
        rintro rfl
        exact hne rfl
      obtain ⟨opened', htables⟩ := take_tables (hopens.table hk .passing) (hleads.missing hk) ih
        (by simpa using hnodup) opened
      refine ⟨opened', ?_⟩
      simp only [blocksOf, hsection, Bool.false_eq_true, ↓reduceIte, List.nil_append, Path.keys, htables, htable,
        branchOf, behind]

end Growing

/-! ## Blocks as they are written -/

theorem mem_blocks_tableEntries {keys : List String} {b : Block} :
    b ∈ blocks keys (tableEntries tables) ↔ ∃ t ∈ tables, b ∈ blocksOf ⟨keys, t.1⟩ (.table t.2) := by
  induction tables with
  | nil => simp [tableEntries, blocks]
  | cons t tables ih =>
    have hcons : tableEntries (t :: tables) = (t.1, .table t.2) :: tableEntries tables := rfl
    simp only [hcons, blocks, List.mem_append, ih, List.mem_cons, exists_eq_or_imp]

theorem Sheet.pos {es : List (String × Value)} (h : Sheet n es) : 0 < n := by
  cases h with
  | mk => exact Nat.succ_pos _

theorem Sheet.plain {es : List (String × Value)} (h : Sheet n es) :
    ∀ e ∈ es.filter (isLeaf ·.2), Plain nestingLimit e.2 := by
  cases h with
  | mk hleaves _ _ => rwa [filter_isLeaf hleaves]

/-- **The blocks of a sheet can be read back.** -/
theorem Sheet.written {es : List (String × Value)} (h : Sheet n es) (keys : List String)
    (hlength : keys.length + n ≤ pathLimit) : ∀ b ∈ blocks keys es, b.Written := by
  induction h generalizing keys with
  | @mk n leaves tables hleaves hsheets _ ih =>
    intro b hb
    rw [blocks_append, blocks_leaves hleaves, List.nil_append] at hb
    obtain ⟨t, ht, hb⟩ := mem_blocks_tableEntries.1 hb
    rcases List.mem_append.1 hb with hb | hb
    · -- the block of the table itself, which holds no more tables than its bound allows
      split at hb
      · rw [List.mem_singleton] at hb
        subst hb
        have hdeep := (hsheets t ht).pos
        exact ⟨by simp [Path.keys]; omega, (hsheets t ht).plain⟩
      · cases hb
    · exact ih t ht (keys ++ [t.1]) (by simp; omega) b hb

/-! ## Documents -/

/-- The parts of a document, each with its lines. -/
def parts (es : List (String × Value)) : List (List Char × List Line) :=
  (if (entryLines es).isEmpty then []
    else [(entryLines es, (es.filter (isLeaf ·.2)).map fun e => .entry ⟨[], e.1⟩ e.2)])
    ++ (blocks [] es).map fun b => (b.text, b.lines)

theorem map_fst_parts (es : List (String × Value)) : (parts es).map (·.1) = sections es := by
  rw [parts, sections, List.map_append, subsections_eq_map_text, List.map_map]
  congr 1
  split <;> rfl

theorem Sheet.readsAs_parts {es : List (String × Value)} (h : Sheet pathLimit es) :
    ∀ p ∈ parts es, ReadsAs p.1 p.2 := by
  intro p hp
  rcases List.mem_append.1 hp with hp | hp
  · split at hp
    · cases hp
    · rw [List.mem_singleton] at hp
      subst hp
      have hlines := readsAs_entryLines h.plain
      rwa [entryLines_filter] at hlines
  · obtain ⟨b, hb, rfl⟩ := List.mem_map.1 hp
    exact (h.written [] (by simp) b hb).readsAs

/-- The lines of a document make the tables that were written. -/
theorem Sheet.ofLines?_parts {es : List (String × Value)} (h : Sheet (n + 1) es) :
    ofLines? ((parts es).flatMap (·.2)) = some (.table es) := by
  cases h with
  | @mk _ leaves tables hleaves hsheets hnodup =>
    have hparts : (parts (leaves ++ tableEntries tables)).flatMap (·.2) =
        leaves.map (fun e => Line.entry ⟨[], e.1⟩ e.2) ++ (blocks [] (tableEntries tables)).flatMap Block.lines := by
      have hlines : entryLines (leaves ++ tableEntries tables) = entryLines leaves := by
        rw [← entryLines_filter, filter_isLeaf hleaves]
      rw [parts, filter_isLeaf hleaves, hlines, blocks_append, blocks_leaves hleaves, List.nil_append,
        List.flatMap_append, List.flatMap_map]
      congr 1
      by_cases hempty : leaves = []
      · subst hempty
        rfl
      · simp [entryLines_ne_nil hleaves hempty]
    obtain ⟨hkeys, _, _⟩ := List.nodup_append.1 hnodup
    have hfirst := take_leaves opens_root [] (by simpa using hkeys)
    obtain ⟨opened, hrest⟩ := take_tables opens_root (opens_root (leafBranches leaves))
      (fun t ht => (hsheets t ht).grows) (by rwa [keys_leafBranches]) []
    simp only [id, List.nil_append] at hfirst hrest
    have hentries : (if tables = [] then leafBranches leaves
        else leafBranches leaves ++ branchesOf (tableEntries tables)) = branchesOf (leaves ++ tableEntries tables) := by
      rw [branchesOf_append, branchesOf_leaves hleaves]
      split
      · subst_vars
        simp [tableEntries, branchesOf]
      · rfl
    rw [ofLines?, hparts, List.foldlM_append, hfirst, Option.bind_eq_bind, Option.bind_some, hrest, hentries,
      Option.map_some, entryValues_branchesOf]

/-- **A document is read back**: what was written of a sheet is read as that sheet. -/
theorem parse?_print {es : List (String × Value)} (h : Sheet pathLimit es) :
    parse? (print (.table es)) = some (.table es) := by
  have hreads := reads_intercalate h.readsAs_parts
  rw [map_fst_parts] at hreads
  have hlines := hreads _ (Nat.lt_succ_self _)
  simp only [parse?, print, String.toList_ofList, hreads.withoutByteOrderMark]
  rw [hlines, Option.bind_eq_bind, Option.bind_some]
  exact h.ofLines?_parts

end GatewayRegistrar.Toml
