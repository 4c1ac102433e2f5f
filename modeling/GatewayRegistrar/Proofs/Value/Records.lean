import GatewayRegistrar.Proofs.Value.Decoding
import Mathlib.Data.List.Forall2

/-!
# When values can be decoded

A decoder that undoes an encoder accepts what the encoder makes and nothing else (`Decoder.Undoes`); so do the decoders
of lists and maps that are made from it. A record is read from a table where no field stands twice and each field that
is there has a value that is allowed (`recordEntries_table_eq_ok_iff`), and from a list where this holds of the items
under the names of the fields in their order (`recordEntries_list_eq_ok_iff`).
-/

namespace GatewayRegistrar

/-! ## Decoders that undo encoders -/

theorem mapM_eq_ok_iff {ε α β : Type} {f : α → Except ε β} {as : List α} {bs : List β} :
    as.mapM f = .ok bs ↔ List.Forall₂ (fun a b => f a = .ok b) as bs := by
  induction as generalizing bs with
  | nil =>
    rw [List.forall₂_nil_left_iff]
    exact ⟨fun h => (Except.ok.inj h).symm, fun h => h ▸ rfl⟩
  | cons a as ih =>
    rw [List.mapM_cons, List.forall₂_cons_left_iff]
    constructor
    · intro h
      obtain ⟨b, hb, h⟩ := exists_ok_of_bind h
      obtain ⟨rest, hrest, h⟩ := exists_ok_of_bind h
      cases h
      exact ⟨b, rest, hb, ih.1 hrest, rfl⟩
    · rintro ⟨b, rest, hb, hrest, rfl⟩
      rw [hb, ih.2 hrest]
      rfl

/-- Items that each have something they go with have a list they go with. -/
theorem exists_forall₂_iff {α β : Type} {R : α → β → Prop} {as : List α} :
    (∃ bs, List.Forall₂ R as bs) ↔ ∀ a ∈ as, ∃ b, R a b := by
  induction as with
  | nil => simp
  | cons a as ih =>
    rw [List.forall_mem_cons, ← ih]
    constructor
    · rintro ⟨_, _ | ⟨hfirst, hrest⟩⟩
      exact ⟨⟨_, hfirst⟩, _, hrest⟩
    · rintro ⟨⟨b, hfirst⟩, bs, hrest⟩
      exact ⟨b :: bs, .cons hfirst hrest⟩

namespace Decoder

variable {α : Type} {item : Decoder α} {f : α → Value} {v : Value}

/-- The decoder gives back what was encoded, and accepts nothing else. -/
def Undoes (item : Decoder α) (f : α → Value) : Prop := ∀ v a, item v = .ok a ↔ v = f a

theorem undoes_text : Undoes text .text := by
  intro v s
  cases v <;> simp [text]

theorem undoes_optionalText : Undoes optionalText .ofText? := by
  intro v s?
  cases v <;> cases s? <;> simp [optionalText, text, Value.ofText?, Except.map]

theorem check_eq_ok_iff : item.check v = .ok () ↔ ∃ a, item v = .ok a := by
  rw [check]
  cases item v <;> simp [Except.map]

theorem forall₂_undoes_iff (h : item.Undoes f) {vs : List Value} {as : List α} :
    List.Forall₂ (fun v a => item v = .ok a) vs as ↔ vs = as.map f := by
  simp only [h _ _]
  rw [← List.forall₂_eq_eq_eq, List.forall₂_map_right_iff]

/-- A list of what was encoded. -/
theorem undoes_listOf (h : item.Undoes f) : Undoes (listOf item) fun as => .list (as.map f) := by
  intro v as
  cases v with
  | list vs => rw [listOf, mapM_eq_ok_iff, forall₂_undoes_iff h, Value.list.injEq]
  | _ => simp [listOf]

/-- A map to what was encoded, in any order and with any repetitions; its normal form is given back. -/
theorem mapOf_eq_ok_iff (h : item.Undoes f) {ts : List (String × α)} :
    mapOf item v = .ok ts ↔ ∃ es, v = .table (es.map fun e => (e.1, f e.2)) ∧ ts = sortEntries es := by
  constructor
  · intro hmap
    unfold mapOf at hmap
    split at hmap
    · rename_i entries
      obtain ⟨es, hes, hts⟩ := exists_ok_of_bind hmap
      have hentry : ∀ (e : String × Value) (d : String × α),
          (do return (e.1, ← item e.2) : Except DecodeFault (String × α)) = .ok d → e = (d.1, f d.2) := by
        rintro ⟨k, w⟩ d hd
        obtain ⟨a, ha, hd⟩ := exists_ok_of_bind hd
        cases hd
        rw [(h w a).1 ha]
      have hall := (mapM_eq_ok_iff.1 hes).imp hentry
      rw [← List.forall₂_map_right_iff, List.forall₂_eq_eq_eq] at hall
      exact ⟨es, congrArg Value.table hall, (Except.ok.inj hts).symm⟩
    · cases hmap
  · rintro ⟨es, rfl, rfl⟩
    exact mapOf_table (fun a => (h _ a).2 rfl) es

end Decoder

/-! ## Fields -/

theorem requiredField_eq_ok_iff {α : Type} {key : String} {item : Decoder α} {entries : List (String × Value)} {a : α} :
    requiredField key item entries = .ok a ↔ ∃ v, entryOf? key entries = some v ∧ item v = .ok a := by
  unfold requiredField
  cases entryOf? key entries <;> simp

/-- A field that need not be there, and that is encoded as some value where it is. -/
theorem optionalField_eq_ok_iff_getD {α : Type} {key : String} {item : Decoder α} {f : α → Value} {fallback a : α}
    {entries : List (String × Value)} (h : item.Undoes f) :
    optionalField key item fallback entries = .ok a ↔ (entryOf? key entries).getD (f fallback) = f a := by
  have hinjective : ∀ b c, f b = f c ↔ b = c := by
    intro b c
    rw [← h (f b) c, (h (f b) b).2 rfl, Except.ok.injEq]
  rw [optionalField]
  cases entryOf? key entries with
  | none => rw [Option.getD_none, hinjective, Except.ok.injEq]
  | some v => exact h v a

/-- Each of the fields is read from the entries. -/
inductive FieldsRead (entries : List (String × Value)) : FieldChecks → Prop
  | nil : FieldsRead entries []
  | required {α : Type} {key : String} {item : Decoder α} {a : α} {fields : FieldChecks} :
      requiredField key item entries = .ok a → FieldsRead entries fields →
        FieldsRead entries ((key, item.check) :: fields)
  | optional {α : Type} {key : String} {item : Decoder α} {fallback a : α} {fields : FieldChecks} :
      optionalField key item fallback entries = .ok a → FieldsRead entries fields →
        FieldsRead entries ((key, item.check) :: fields)

/-- Fields that are read have values that are allowed. -/
theorem FieldsRead.checked {entries : List (String × Value)} {fields : FieldChecks} (h : FieldsRead entries fields) :
    ∀ f ∈ fields, ∀ v, entryOf? f.1 entries = some v → f.2 v = .ok () := by
  induction h with
  | nil => exact fun _ => nofun
  | required hread _ ih =>
    refine List.forall_mem_cons.2 ⟨fun v hv => ?_, ih⟩
    rw [requiredField, hv] at hread
    exact Decoder.check_eq_ok_iff.2 ⟨_, hread⟩
  | optional hread _ ih =>
    refine List.forall_mem_cons.2 ⟨fun v hv => ?_, ih⟩
    rw [optionalField, hv] at hread
    exact Decoder.check_eq_ok_iff.2 ⟨_, hread⟩

/-- The keys among the entries that are of interest, in order. -/
def keysAmong {α : Type} (keys : List String) (entries : List (String × α)) : List String :=
  (entries.map (·.1)).filter (· ∈ keys)

/-- None of the keys stands twice among the entries. Other keys may. -/
def Once {α : Type} (keys : List String) (entries : List (String × α)) : Prop := (keysAmong keys entries).Nodup

instance {α : Type} (keys : List String) (entries : List (String × α)) : Decidable (Once keys entries) :=
  inferInstanceAs (Decidable (keysAmong keys entries).Nodup)

section Once

variable {α : Type} {keys : List String} {entries : List (String × α)} {k : String} {v : α}

theorem once_of_nodup (h : (entries.map (·.1)).Nodup) : Once keys entries := h.filter _

theorem keysAmong_cons_of_notMem (hk : k ∉ keys) : keysAmong keys ((k, v) :: entries) = keysAmong keys entries := by
  simp [keysAmong, hk]

theorem keysAmong_cons_of_mem (hk : k ∈ keys) :
    keysAmong keys ((k, v) :: entries) = k :: keysAmong keys entries := by
  simp [keysAmong, hk]

theorem mem_keysAmong_of_mem (hk : k ∈ keys) (h : (k, v) ∈ entries) : k ∈ keysAmong keys entries :=
  List.mem_filter.2 ⟨List.mem_map_of_mem h, decide_eq_true hk⟩

theorem Once.tail {e : String × α} (h : Once keys (e :: entries)) : Once keys entries :=
  h.sublist (((List.sublist_cons_self e entries).map _).filter _)

/-- What stands under a key that stands there once. -/
theorem Once.entryOf?_eq (h : Once keys entries) (hk : k ∈ keys) (hmem : (k, v) ∈ entries) :
    entryOf? k entries = some v := by
  induction entries with
  | nil => cases hmem
  | cons e entries ih =>
    obtain ⟨key, w⟩ := e
    rcases List.mem_cons.1 hmem with heq | hmem
    · cases heq
      exact entryOf?_cons_self ..
    · have hkey : key ≠ k := by
        rintro rfl
        rw [Once, keysAmong_cons_of_mem hk] at h
        exact (List.nodup_cons.1 h).1 (mem_keysAmong_of_mem hk hmem)
      rw [entryOf?_cons, if_neg hkey]
      exact ih h.tail hmem

end Once

/-! ## Records -/

section Records

variable {record : String} {required : Nat} {strict : Bool} {fields : FieldChecks} {entries ds : List (String × Value)}

/-- An entry under a field is checked, and the field must not have stood before. -/
theorem checkEntries_cons_eq_ok_iff {seen : List String} {k : String} {v : Value} {item : Decoder Unit}
    (h : entryOf? k fields = some item) :
    checkEntries fields seen ((k, v) :: entries) = .ok () ↔
      k ∉ seen ∧ item v = .ok () ∧ checkEntries fields (k :: seen) entries = .ok () := by
  rw [checkEntries, h]
  by_cases hseen : k ∈ seen
  · simp [hseen]
  · cases hitem : item v <;> simp [hseen, hitem, bind, Except.bind]

/-- The entries have no fault exactly where no field stands twice and each value is allowed. -/
theorem checkEntries_eq_ok_iff {seen : List String} :
    checkEntries fields seen entries = .ok () ↔
      Once (fields.map (·.1)) entries ∧ (keysAmong (fields.map (·.1)) entries).Disjoint seen ∧
        ∀ e ∈ entries, ∀ item, entryOf? e.1 fields = some item → item e.2 = .ok () := by
  induction entries generalizing seen with
  | nil => simp [checkEntries, Once, keysAmong]
  | cons e entries ih =>
    obtain ⟨k, v⟩ := e
    rw [List.forall_mem_cons]
    cases hfield : entryOf? k fields with
    | none =>
      have hk : k ∉ fields.map (·.1) := entryOf?_eq_none_iff.1 hfield
      simp only [checkEntries, hfield, ih, Once, keysAmong_cons_of_notMem hk, reduceCtorEq, false_implies, implies_true,
        true_and]
    | some item =>
      have hk : k ∈ fields.map (·.1) := List.mem_map_of_mem (mem_of_entryOf? hfield)
      simp only [checkEntries_cons_eq_ok_iff hfield, ih, Once, keysAmong_cons_of_mem hk, List.nodup_cons,
        List.disjoint_cons_left, List.disjoint_cons_right, Option.some.injEq, forall_eq']
      grind

/-- All entries are checked by what stands under each field. -/
theorem checkEntries_nil_eq_ok_iff (entries : List (String × Value)) (hfields : (fields.map (·.1)).Nodup) :
    checkEntries fields [] entries = .ok () ↔
      Once (fields.map (·.1)) entries ∧ ∀ f ∈ fields, ∀ v, entryOf? f.1 entries = some v → f.2 v = .ok () := by
  have hsingle := singleValued_of_nodup hfields
  rw [checkEntries_eq_ok_iff]
  refine and_congr_right fun honce => ⟨fun h f hf v hv => ?_, fun h => ⟨List.disjoint_nil_right _, ?_⟩⟩
  · exact h.2 _ (mem_of_entryOf? hv) f.2 (hsingle.entryOf?_eq_some_iff.2 hf)
  · intro e he item hitem
    have hfield := mem_of_entryOf? hitem
    exact h _ hfield e.2 (honce.entryOf?_eq (List.mem_map_of_mem hfield) he)

/-- **A table is read as a record** exactly where no field stands twice and each field that is there has a value that is
allowed. -/
theorem recordEntries_table_eq_ok_iff (hfields : (fields.map (·.1)).Nodup) :
    recordEntries record required strict fields (.table entries) = .ok ds ↔
      ds = entries ∧ Once (fields.map (·.1)) entries ∧
        ∀ f ∈ fields, ∀ v, entryOf? f.1 entries = some v → f.2 v = .ok () := by
  rw [recordEntries, ← checkEntries_nil_eq_ok_iff entries hfields]
  cases hcheck : checkEntries fields [] entries <;> simp [bind, Except.bind, pure, Except.pure, eq_comm]

theorem map_fst_zip_eq_take (ks : List String) (items : List Value) :
    (ks.zip items).map (·.1) = ks.take items.length := by
  induction ks generalizing items with
  | nil => simp
  | cons k ks ih => cases items <;> simp [ih]

/-- Items that reach over the required fields stand for the fields in their order. -/
theorem itemsAsEntries_eq_ok_iff {items : List Value} (hfields : (fields.map (·.1)).Nodup) :
    itemsAsEntries record required fields items = .ok ds ↔
      ds = (fields.map (·.1)).zip items ∧ required ≤ items.length ∧
        ∀ f ∈ fields, ∀ v, entryOf? f.1 ds = some v → f.2 v = .ok () := by
  have honce : Once (fields.map (·.1)) ((fields.map (·.1)).zip items) := by
    refine once_of_nodup ?_
    rw [map_fst_zip_eq_take]
    exact hfields.sublist (List.take_sublist ..)
  have hcheck := checkEntries_nil_eq_ok_iff ((fields.map (·.1)).zip items) hfields
  rw [and_iff_right honce] at hcheck
  rw [itemsAsEntries]
  constructor
  · intro h
    obtain ⟨_, hentries, h⟩ := exists_ok_of_bind h
    split at h
    · cases h
    · cases h
      exact ⟨rfl, by omega, hcheck.1 hentries⟩
  · rintro ⟨rfl, hlength, hall⟩
    rw [hcheck.2 hall]
    exact if_neg (by omega)

/-- **A list is read as a record** exactly where it reaches over the required fields, is not too long for a strict
reader, and each item is allowed for the field in its place. -/
theorem recordEntries_list_eq_ok_iff {items : List Value} (hfields : (fields.map (·.1)).Nodup) :
    recordEntries record required strict fields (.list items) = .ok ds ↔
      ds = (fields.map (·.1)).zip items ∧ required ≤ items.length ∧ (strict = true → items.length ≤ fields.length) ∧
        ∀ f ∈ fields, ∀ v, entryOf? f.1 ds = some v → f.2 v = .ok () := by
  rw [recordEntries]
  constructor
  · intro h
    obtain ⟨entries, hentries, h⟩ := exists_ok_of_bind h
    obtain ⟨rfl, hlength, hall⟩ := (itemsAsEntries_eq_ok_iff hfields).1 hentries
    split at h
    · cases h
    · rename_i hlong
      cases h
      exact ⟨rfl, hlength, fun hstrict => Nat.not_lt.1 fun hlt => hlong ⟨hstrict, hlt⟩, hall⟩
  · rintro ⟨rfl, hlength, hlong, hall⟩
    rw [(itemsAsEntries_eq_ok_iff hfields).2 ⟨rfl, hlength, hall⟩]
    exact if_neg fun h => Nat.not_lt.2 (hlong h.1) h.2

end Records
end GatewayRegistrar
