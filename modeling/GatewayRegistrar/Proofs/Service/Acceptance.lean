import GatewayRegistrar.Proofs.Json.Selection
import GatewayRegistrar.Proofs.Value.Records
import GatewayRegistrar.Service.Resource

/-!
# What is accepted as a resource

A resource is told by a table or by a list of two to four items (`Resource.Describes`). In a table each field may be
absent, other keys are free, and no field stands twice; in a list the items stand for the fields in their order. A value
is decoded to a resource exactly when it tells it (`decode_eq_ok_iff`).
-/

namespace GatewayRegistrar
namespace Resource

/-- The names of the fields, in their order. -/
def fieldNames : List String := ["resource_id", "name", "tags", "stage_names"]

/-- The values under the names of the fields tell the resource. Identifier and name are texts or null, tags are a table
of texts and nulls, stage names are a list of texts; what is absent is null or empty. -/
structure FieldsTell (value? : String → Option Value) (r : Resource) : Prop where
  id : (value? "resource_id").getD .null = .ofText? r.id?
  name : (value? "name").getD .null = .ofText? r.name?
  tags : ∃ es, (value? "tags").getD (.table []) = .table (es.map fun e => (e.1, .ofText? e.2)) ∧ r.tags = sortEntries es
  stageNames : (value? "stage_names").getD (.list []) = .ofTexts r.stageNames

/-- **A value that tells a resource.** -/
inductive Describes : Value → Resource → Prop
  | table {entries : List (String × Value)} {r : Resource} :
      Once fieldNames entries → FieldsTell (entryOf? · entries) r → Describes (.table entries) r
  | list {items : List Value} {r : Resource} :
      2 ≤ items.length → items.length ≤ 4 → FieldsTell (entryOf? · (fieldNames.zip items)) r → Describes (.list items) r

variable {entries : List (String × Value)} {v : Value} {r : Resource}

/-! ## Fields -/

/-- The fields are decoded, each to what the resource has. -/
structure FieldsDecode (entries : List (String × Value)) (r : Resource) : Prop where
  id : optionalField "resource_id" Decoder.optionalText none entries = .ok r.id?
  name : optionalField "name" Decoder.optionalText none entries = .ok r.name?
  tags : optionalField "tags" (Decoder.mapOf Decoder.optionalText) [] entries = .ok r.tags
  stageNames : optionalField "stage_names" (Decoder.listOf Decoder.text) [] entries = .ok r.stageNames

theorem fieldsDecode_iff : FieldsDecode entries r ↔ FieldsTell (entryOf? · entries) r := by
  have hoptional : ∀ {key : String} {s? : Option String},
      optionalField key Decoder.optionalText none entries = .ok s? ↔
        (entryOf? key entries).getD .null = .ofText? s? :=
    optionalField_eq_ok_iff_getD Decoder.undoes_optionalText
  have hstages : optionalField "stage_names" (Decoder.listOf Decoder.text) [] entries = .ok r.stageNames ↔
      (entryOf? "stage_names" entries).getD (.list []) = .ofTexts r.stageNames :=
    optionalField_eq_ok_iff_getD (Decoder.undoes_listOf Decoder.undoes_text)
  have htags : optionalField "tags" (Decoder.mapOf Decoder.optionalText) [] entries = .ok r.tags ↔
      ∃ es, (entryOf? "tags" entries).getD (.table []) = .table (es.map fun e => (e.1, .ofText? e.2)) ∧
        r.tags = sortEntries es := by
    have hnone : ∀ ts : List (String × Option String), Decoder.mapOf Decoder.optionalText (.table []) = .ok ts ↔
        [] = ts := fun ts => ⟨fun h => Except.ok.inj h, fun h => h ▸ rfl⟩
    rw [← Decoder.mapOf_eq_ok_iff Decoder.undoes_optionalText, optionalField]
    cases entryOf? "tags" entries with
    | none => rw [Option.getD_none, hnone, Except.ok.injEq]
    | some v => rfl
  exact ⟨fun h => ⟨hoptional.1 h.id, hoptional.1 h.name, htags.1 h.tags, hstages.1 h.stageNames⟩,
    fun h => ⟨hoptional.2 h.id, hoptional.2 h.name, htags.2 h.tags, hstages.2 h.stageNames⟩⟩

theorem FieldsDecode.fieldsRead (h : FieldsDecode entries r) : FieldsRead entries fields :=
  .optional h.id <| .optional h.name <| .optional h.tags <| .optional h.stageNames .nil

/-! ## Resources -/

/-- A resource is decoded from its entries, each field by itself. -/
theorem decode_eq_ok_iff_fields :
    decode v = .ok r ↔ ∃ entries, recordEntries "RawResource" 2 true fields v = .ok entries ∧ FieldsDecode entries r := by
  constructor
  · intro h
    obtain ⟨entries, hentries, h⟩ := exists_ok_of_bind h
    obtain ⟨id?, hid, h⟩ := exists_ok_of_bind h
    obtain ⟨name?, hname, h⟩ := exists_ok_of_bind h
    obtain ⟨tags, htags, h⟩ := exists_ok_of_bind h
    obtain ⟨stageNames, hstages, h⟩ := exists_ok_of_bind h
    cases h
    exact ⟨entries, hentries, hid, hname, htags, hstages⟩
  · rintro ⟨entries, hentries, hid, hname, htags, hstages⟩
    simp only [decode, hentries, hid, hname, htags, hstages, bind, Except.bind, pure, Except.pure]

/-- **A value is decoded to a resource exactly when it tells it.** -/
theorem decode_eq_ok_iff : decode v = .ok r ↔ Describes v r := by
  have hnames : fields.map (·.1) = fieldNames := rfl
  have hnodup : (fields.map (·.1)).Nodup := by decide
  rw [decode_eq_ok_iff_fields]
  constructor
  · rintro ⟨entries, hentries, hdecode⟩
    cases v with
    | table ds =>
      obtain ⟨rfl, honce, _⟩ := (recordEntries_table_eq_ok_iff hnodup).1 hentries
      exact .table honce (fieldsDecode_iff.1 hdecode)
    | list items =>
      obtain ⟨rfl, hshort, hlong, _⟩ := (recordEntries_list_eq_ok_iff hnodup).1 hentries
      exact .list hshort (hlong rfl) (fieldsDecode_iff.1 hdecode)
    | _ => cases hentries
  · intro h
    cases h with
    | table honce htell =>
      have hdecode := fieldsDecode_iff.2 htell
      exact ⟨_, (recordEntries_table_eq_ok_iff hnodup).2 ⟨rfl, honce, hdecode.fieldsRead.checked⟩, hdecode⟩
    | list hshort hlong htell =>
      have hdecode := fieldsDecode_iff.2 htell
      exact ⟨_, (recordEntries_list_eq_ok_iff hnodup).2 ⟨rfl, hshort, fun _ => hlong, hdecode.fieldsRead.checked⟩, hdecode⟩

/-- A value is decoded to resources exactly when it is a list of values that tell them. -/
theorem listOf_decode_eq_ok_iff {rs : List Resource} :
    Decoder.listOf decode v = .ok rs ↔ ∃ items, v = .list items ∧ List.Forall₂ Describes items rs := by
  cases v with
  | list items => simp [Decoder.listOf, mapM_eq_ok_iff, decode_eq_ok_iff]
  | _ => simp [Decoder.listOf]

/-! ## Texts of resources -/

/-- What stands under other keys does not tell anything. -/
theorem FieldsTell.congr {value? other? : String → Option Value} (h : FieldsTell value? r)
    (hsame : ∀ k ∈ fieldNames, other? k = value? k) : FieldsTell other? r := by
  have hid := hsame "resource_id" (by decide)
  have hname := hsame "name" (by decide)
  have htags := hsame "tags" (by decide)
  have hstages := hsame "stage_names" (by decide)
  exact ⟨hid ▸ h.id, hname ▸ h.name, htags ▸ h.tags, hstages ▸ h.stageNames⟩

/-- Where only the fields are asked for, the same resource is told. -/
theorem describes_of_iff : Describes ((Json.Selection.fields fieldNames).of v) r ↔ Describes v r := by
  cases v with
  | table es =>
    have honce : Once fieldNames (es.map fun e => (e.1, if e.1 ∈ fieldNames then e.2 else .null)) ↔
        Once fieldNames es := by
      simp only [Once, keysAmong, List.map_map, Function.comp_def]
    have hentry : ∀ k ∈ fieldNames, entryOf? k (es.map fun e => (e.1, if e.1 ∈ fieldNames then e.2 else .null)) =
        entryOf? k es := by
      intro k hk
      clear honce
      induction es with
      | nil => rfl
      | cons e es ih =>
        rw [List.map_cons, entryOf?_cons, entryOf?_cons, ih]
        by_cases heq : e.1 = k
        · simp only [heq, hk, if_true]
        · simp only [heq, if_false]
    constructor
    · rintro ⟨hes, htell⟩
      exact .table (honce.1 hes) (htell.congr fun k hk => (hentry k hk).symm)
    · rintro ⟨hes, htell⟩
      exact .table (honce.2 hes) (htell.congr hentry)
  | _ => rfl

/-- **A text that lists resources**: a list, each of whose items tells the resource in its place. -/
def ListedBy (text : String) (rs : List Resource) : Prop :=
  ∃ items, Json.parseSelected? selection text = some (.list items) ∧ List.Forall₂ Describes items rs

/-- What a text lists can be told from its whole value, where it has one. -/
theorem listedBy_iff_of_parse? {text : String} (h : Json.parse? text = some v) {rs : List Resource} :
    ListedBy text rs ↔ ∃ items, v = .list items ∧ List.Forall₂ Describes items rs := by
  have hselected := Json.parseSelected?_of_parse? h selection
  have hitems : ∀ items, selection.of v = .list items ↔
      ∃ vs, v = .list vs ∧ vs.map (Json.Selection.fields fieldNames).of = items := by
    intro items
    cases v <;> simp [selection, Json.Selection.of, fields, fieldNames]
  rw [ListedBy, hselected]
  constructor
  · rintro ⟨items, hlist, htell⟩
    obtain ⟨vs, rfl, rfl⟩ := (hitems items).1 (Option.some.inj hlist)
    rw [List.forall₂_map_left_iff] at htell
    exact ⟨vs, rfl, htell.imp fun _ _ => describes_of_iff.1⟩
  · rintro ⟨vs, rfl, htell⟩
    refine ⟨_, congrArg some ((hitems _).2 ⟨vs, rfl, rfl⟩), ?_⟩
    rw [List.forall₂_map_left_iff]
    exact htell.imp fun _ _ => describes_of_iff.2

/-- **All or nothing**: a text lists no resources exactly where it is no list, or some item of it tells no resource. -/
theorem not_listedBy_iff {text : String} :
    (¬∃ rs, ListedBy text rs) ↔
      ∀ items, Json.parseSelected? selection text = some (.list items) → ∃ v ∈ items, ∀ r, ¬Describes v r := by
  constructor
  · intro h items hitems
    have hnone : ¬∃ rs, List.Forall₂ Describes items rs := fun ⟨rs, hrs⟩ => h ⟨rs, items, hitems, hrs⟩
    simpa only [exists_forall₂_iff, not_forall, not_exists, exists_prop] using hnone
  · rintro h ⟨rs, items, hitems, htell⟩
    obtain ⟨v, hv, hbad⟩ := h items hitems
    obtain ⟨r, hr⟩ := exists_forall₂_iff.1 ⟨rs, htell⟩ v hv
    exact hbad r hr

end Resource
end GatewayRegistrar
