import GatewayRegistrar.Value.Basic
import Mathlib.Data.List.Induction
import Mathlib.Data.List.Nodup

/-!
# Entries and their normal form

Looking up a key finds nothing exactly where no entry has it. A map has one normal form, whatever the order in which
its entries come: sorting any arrangement of the entries of a map in normal form gives that map (`sortEntries_of_perm`).

Entries need not be a map yet. Under a key, their normal form has what the last entry with this key says
(`entryOf?_sortEntries`), and where no key has two values (`SingleValued`) their order does not matter
(`SingleValued.entryOf?_perm`, `SingleValued.sortEntries_perm`).
-/

namespace GatewayRegistrar

variable {α : Type} {k : String} {es ds : List (String × α)}

/-! ## Looking up -/

theorem entryOf?_eq_none_iff : entryOf? k es = none ↔ k ∉ es.map (·.1) := by
  simp only [entryOf?, Option.map_eq_none_iff, List.find?_eq_none, decide_eq_true_eq, List.mem_map, not_exists, not_and]

theorem mem_of_entryOf? {v : α} (h : entryOf? k es = some v) : (k, v) ∈ es := by
  obtain ⟨e, hfind, rfl⟩ := Option.map_eq_some_iff.1 h
  have hkey : e.1 = k := by simpa using List.find?_some hfind
  rw [← hkey]
  exact List.mem_of_find?_eq_some hfind

theorem entryOf?_append (k : String) (es ds : List (String × α)) :
    entryOf? k (es ++ ds) = (entryOf? k es).or (entryOf? k ds) := by
  simp [entryOf?, List.find?_append, Option.map_or]

theorem entryOf?_append_of_notMem (h : k ∉ es.map (·.1)) : entryOf? k (es ++ ds) = entryOf? k ds := by
  rw [entryOf?_append, entryOf?_eq_none_iff.2 h, Option.none_or]

theorem entryOf?_cons (k : String) (e : String × α) (es : List (String × α)) :
    entryOf? k (e :: es) = if e.1 = k then some e.2 else entryOf? k es := by
  by_cases h : e.1 = k <;> simp [entryOf?, h]

@[simp] theorem entryOf?_cons_self (k : String) (v : α) (es : List (String × α)) :
    entryOf? k ((k, v) :: es) = some v := by
  simp [entryOf?]

theorem entryOf?_map {β : Type} (f : α → β) (k : String) (es : List (String × α)) :
    entryOf? k (es.map fun e => (e.1, f e.2)) = (entryOf? k es).map f := by
  induction es with
  | nil => rfl
  | cons e es ih =>
    rw [List.map_cons, entryOf?_cons, entryOf?_cons, ih]
    split <;> rfl

/-- Some keys are left out. -/
theorem entryOf?_filter (k : String) (keys : List String) (es : List (String × α)) :
    entryOf? k (es.filter (·.1 ∉ keys)) = if k ∈ keys then none else entryOf? k es := by
  induction es with
  | nil => simp [entryOf?]
  | cons e es ih =>
    by_cases hkey : e.1 ∈ keys
    · have hout : k ∉ keys → e.1 ≠ k := fun hk heq => hk (heq ▸ hkey)
      rw [List.filter_cons_of_neg (by simpa using hkey), ih, entryOf?_cons]
      split
      · rfl
      · rename_i hk
        rw [if_neg (hout hk)]
    · rw [List.filter_cons_of_pos (by simpa using hkey), entryOf?_cons, entryOf?_cons, ih]
      by_cases heq : e.1 = k
      · rw [if_pos heq, if_pos heq, if_neg (heq ▸ hkey)]
      · rw [if_neg heq, if_neg heq]

/-! ## Normal forms -/

/-- A new key is put between the others. -/
theorem insertSorted_perm (v : α) (h : k ∉ es.map (·.1)) : (insertSorted k v es).Perm ((k, v) :: es) := by
  induction es with
  | nil => exact .refl _
  | cons e es ih =>
    simp only [List.map_cons, List.mem_cons, not_or] at h
    simp only [insertSorted, h.1, ↓reduceIte]
    split
    · exact .refl _
    · exact ((ih h.2).cons e).trans (.swap ..)

theorem mem_insertSorted {v : α} {e : String × α} (h : e ∈ insertSorted k v es) : e = (k, v) ∨ e ∈ es := by
  induction es with
  | nil => exact .inl (List.mem_singleton.1 h)
  | cons f es ih =>
    unfold insertSorted at h
    split at h
    · exact (List.mem_cons.1 h).imp_right (List.mem_cons_of_mem _)
    · split at h
      · exact List.mem_cons.1 h
      · rcases List.mem_cons.1 h with rfl | h
        · exact .inr List.mem_cons_self
        · exact (ih h).imp_right (List.mem_cons_of_mem _)

theorem ascending_insertSorted (k : String) (v : α) (hes : Ascending es) : Ascending (insertSorted k v es) := by
  induction es with
  | nil => exact List.pairwise_singleton ..
  | cons e es ih =>
    obtain ⟨hfirst, hrest⟩ := List.pairwise_cons.1 hes
    unfold insertSorted
    split
    · rename_i heq
      exact List.pairwise_cons.2 ⟨fun f hf => heq ▸ hfirst f hf, hrest⟩
    · rename_i hne
      split
      · rename_i hlt
        refine List.pairwise_cons.2 ⟨fun f hf => ?_, hes⟩
        rcases List.mem_cons.1 hf with rfl | hf
        · exact hlt
        · exact String.lt_trans hlt (hfirst f hf)
      · rename_i hlt
        have hgt : e.1 < k := Std.lt_of_le_of_ne (String.not_lt.1 hlt) (Ne.symm hne)
        refine List.pairwise_cons.2 ⟨fun f hf => ?_, ih hrest⟩
        rcases mem_insertSorted hf with rfl | hf
        · exact hgt
        · exact hfirst f hf

/-- The keys of a map in normal form are distinct. -/
theorem Ascending.nodup (h : Ascending es) : (es.map (·.1)).Nodup := by
  refine List.pairwise_map.2 (h.imp fun hlt heq => ?_)
  rw [heq] at hlt
  exact String.lt_irrefl _ hlt

theorem sortEntries_append_singleton (es : List (String × α)) (e : String × α) :
    sortEntries (es ++ [e]) = insertSorted e.1 e.2 (sortEntries es) := by
  simp [sortEntries, List.foldl_append]

/-- Sorted entries are in normal form. -/
theorem ascending_sortEntries (es : List (String × α)) : Ascending (sortEntries es) := by
  induction es using List.reverseRecOn with
  | nil => exact List.Pairwise.nil
  | append_singleton es e ih =>
    rw [sortEntries_append_singleton]
    exact ascending_insertSorted _ _ ih

/-- Where no key stands twice, sorting only arranges the entries. -/
theorem sortEntries_perm (h : (es.map (·.1)).Nodup) : (sortEntries es).Perm es := by
  induction es using List.reverseRecOn with
  | nil => exact .refl _
  | append_singleton es e ih =>
    rw [List.map_append, List.nodup_append] at h
    obtain ⟨hes, _, hnew⟩ := h
    have hperm := ih hes
    have hkey : e.1 ∉ (sortEntries es).map (·.1) := by
      rw [(hperm.map _).mem_iff]
      exact fun hmem => hnew e.1 hmem e.1 (by simp) rfl
    rw [sortEntries_append_singleton]
    exact (insertSorted_perm e.2 hkey).trans ((hperm.cons e).trans (List.perm_append_singleton e es).symm)

/-- **A map has one normal form.** -/
theorem sortEntries_of_perm (hes : Ascending es) (h : ds.Perm es) : sortEntries ds = es := by
  have hnodup : (ds.map (·.1)).Nodup := (h.map _).nodup_iff.2 hes.nodup
  refine ((sortEntries_perm hnodup).trans h).eq_of_pairwise (fun e f _ _ hef hfe => ?_) (ascending_sortEntries ds) hes
  exact absurd hfe (String.lt_asymm hef)

/-! ## Keys with one value -/

/-- No key has two values. -/
def SingleValued (es : List (String × α)) : Prop := ∀ e ∈ es, ∀ f ∈ es, e.1 = f.1 → e.2 = f.2

theorem singleValued_of_nodup (h : (es.map (·.1)).Nodup) : SingleValued es := fun _ he _ hf hkey =>
  congrArg Prod.snd (List.inj_on_of_nodup_map h he hf hkey)

theorem SingleValued.of_perm (hes : SingleValued es) (h : ds.Perm es) : SingleValued ds :=
  fun e he f hf => hes e (h.mem_iff.1 he) f (h.mem_iff.1 hf)

/-- What stands under a key is the one value that the key has. -/
theorem SingleValued.entryOf?_eq_some_iff (hes : SingleValued es) {v : α} : entryOf? k es = some v ↔ (k, v) ∈ es := by
  refine ⟨mem_of_entryOf?, fun h => ?_⟩
  cases hlook : entryOf? k es with
  | none => exact absurd (List.mem_map_of_mem h) (entryOf?_eq_none_iff.1 hlook)
  | some w => exact congrArg some (hes _ (mem_of_entryOf? hlook) _ h rfl)

/-- Where no key has two values, the order of the entries does not matter to a key. -/
theorem SingleValued.entryOf?_perm (hes : SingleValued es) (h : ds.Perm es) (k : String) :
    entryOf? k ds = entryOf? k es :=
  Option.ext fun v => by
    rw [(hes.of_perm h).entryOf?_eq_some_iff, hes.entryOf?_eq_some_iff, h.mem_iff]

/-! ## Looking up in normal forms -/

theorem entryOf?_insertSorted (k key : String) (v : α) (es : List (String × α)) :
    entryOf? k (insertSorted key v es) = if key = k then some v else entryOf? k es := by
  induction es with
  | nil => rw [insertSorted, entryOf?_cons]
  | cons e es ih =>
    unfold insertSorted
    split
    · rename_i heq
      simp only [entryOf?_cons, ← heq]
      split <;> rfl
    · rename_i hne
      split
      · rw [entryOf?_cons]
      · rw [entryOf?_cons, ih, entryOf?_cons]
        by_cases he : e.1 = k
        · have hkey : key ≠ k := fun h => hne (h.trans he.symm)
          simp only [he, hkey, ↓reduceIte]
        · simp only [he, ↓reduceIte]

/-- **What stands under a key in a normal form** is what the last entry with that key says. -/
theorem entryOf?_sortEntries (k : String) (es : List (String × α)) :
    entryOf? k (sortEntries es) = entryOf? k es.reverse := by
  induction es using List.reverseRecOn with
  | nil => rfl
  | append_singleton es e ih =>
    rw [sortEntries_append_singleton, entryOf?_insertSorted, ih, List.reverse_append, List.reverse_singleton,
      List.singleton_append, entryOf?_cons]

/-- **Maps in normal form are equal when they say the same of every key.** -/
theorem Ascending.ext (hes : Ascending es) (hds : Ascending ds) (h : ∀ k, entryOf? k es = entryOf? k ds) :
    es = ds := by
  have hmem : ∀ e, e ∈ es ↔ e ∈ ds := fun e => by
    rw [← (singleValued_of_nodup hes.nodup).entryOf?_eq_some_iff, h,
      (singleValued_of_nodup hds.nodup).entryOf?_eq_some_iff]
  have hperm : es.Perm ds := (List.perm_ext_iff_of_nodup (hes.nodup.of_map _) (hds.nodup.of_map _)).2 hmem
  exact hperm.eq_of_pairwise (fun e f _ _ hef hfe => absurd hfe (String.lt_asymm hef)) hes hds

/-- **Where no key has two values, all arrangements of the entries have one normal form.** -/
theorem SingleValued.sortEntries_perm (hes : SingleValued es) (h : ds.Perm es) : sortEntries ds = sortEntries es := by
  refine (ascending_sortEntries ds).ext (ascending_sortEntries es) fun k => ?_
  rw [entryOf?_sortEntries, entryOf?_sortEntries]
  exact (hes.of_perm es.reverse_perm).entryOf?_perm (ds.reverse_perm.trans (h.trans es.reverse_perm.symm)) k

/-! ## Tables -/

namespace Value

theorem sortedEntries_eq_map (vs : List (String × Value)) :
    sortedEntries vs = vs.map fun e => (e.1, e.2.sorted) := by
  induction vs with
  | nil => rfl
  | cons e vs ih => exact congrArg (_ :: ·) ih

/-- A map in normal form is sorted. -/
theorem sorted_ofTextTable {es : List (String × String)} (h : Ascending es) : (ofTextTable es).sorted = ofTextTable es := by
  have hmap : sortedEntries (es.map fun e => (e.1, text e.2)) = es.map fun e => (e.1, text e.2) := by
    rw [sortedEntries_eq_map, List.map_map]
    rfl
  have hascending : Ascending (es.map fun e => (e.1, text e.2)) := List.pairwise_map.2 h
  show (table (es.map fun e => (e.1, text e.2))).sorted = table (es.map fun e => (e.1, text e.2))
  rw [sorted, hmap, sortEntries_of_perm hascending (.refl _)]

theorem sorted_ofTexts (ts : List String) : (ofTexts ts).sorted = ofTexts ts := by
  have hitems : sortedItems (ts.map text) = ts.map text := by
    induction ts with
    | nil => rfl
    | cons t ts ih => exact congrArg (_ :: ·) ih
  rw [ofTexts, sorted, hitems]

theorem ofTexts_injective {ts us : List String} (h : ofTexts ts = ofTexts us) : ts = us :=
  List.map_injective_iff.2 (fun _ _ => text.inj) (list.inj h)

theorem ofTextTable_injective {es ds : List (String × String)} (h : ofTextTable es = ofTextTable ds) : es = ds := by
  refine List.map_injective_iff.2 (fun e d hed => ?_) (table.inj h)
  obtain ⟨hkey, hvalue⟩ := Prod.mk.inj hed
  exact Prod.ext hkey (text.inj hvalue)

end Value

end GatewayRegistrar
