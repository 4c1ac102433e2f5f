import GatewayRegistrar.Proofs.Cycle.Tags

/-!
# From a resource to its name

`Resource.Names` is the rule that gives a name to a resource, by its raw name and the values of two of its tags alone.
It gives exactly one name (`existsUnique_names`), and it is the rule that identities go by (`names_iff`). With it, what
a resource has to have is said of the resource itself, and so is which fault comes first when it has too little
(`ofResource_noRegion` and so on, `exists_ofResource_iff`).
-/

namespace GatewayRegistrar

/-! ## The rule for names -/

/-- The stage and a hyphen, where the text begins with them. -/
def stageStart (stage cs : List Char) : List Char := if stage ++ ['-'] <+: cs then stage ++ ['-'] else []

/-- A hyphen and the stage, where the text ends with them. -/
def stageEnding (stage cs : List Char) : List Char := if '-' :: stage <:+ cs then '-' :: stage else []

namespace Resource

/-- The value of a tag, if it has one. -/
def valueOf? (r : Resource) (key : String) : Option String := entryOf? key r.valuedTags

/-- Where each key stands once, the value of a tag is the one that is listed. -/
theorem valueOf?_eq_some_iff {r : Resource} (h : (r.tags.map (·.1)).Nodup) {key value : String} :
    r.valueOf? key = some value ↔ (key, some value) ∈ r.tags := by
  rw [valueOf?, (singleValued_valuedTags h).entryOf?_eq_some_iff, mem_valuedTags]

/-- **The rule for the name of a resource** with a raw name: the value of the service tag; without one the raw name, or,
where there is a stage, what the raw name has between the stage at its beginning and the stage at the end of the
rest. -/
inductive Names (r : Resource) (rawName : String) : String → Prop
  | service {name : String} : r.valueOf? serviceTag = some name → Names r rawName name
  | raw : r.valueOf? serviceTag = none → r.valueOf? stageTag = none → Names r rawName rawName
  | staged {stage name : String} {rest : List Char} : r.valueOf? serviceTag = none → r.valueOf? stageTag = some stage →
      rawName.toList = stageStart stage.toList rawName.toList ++ rest →
        rest = name.toList ++ stageEnding stage.toList rest → Names r rawName name

end Resource

namespace Identity

theorem withoutStart_iff_stageStart {stage cs rest : List Char} :
    WithoutStart (stage ++ ['-']) cs rest ↔ cs = stageStart stage cs ++ rest := by
  unfold WithoutStart stageStart
  split
  · rename_i hstart
    obtain ⟨front, hfront⟩ := hstart
    exact ⟨fun h => h.resolve_right fun hno => hno.1 front hfront.symm, .inl⟩
  · rename_i hstart
    have hno : ∀ front, ¬ cs = (stage ++ ['-']) ++ front := fun front h => hstart ⟨front, h.symm⟩
    exact ⟨fun h => (h.resolve_left (hno rest)).2.symm, fun h => .inr ⟨hno, h.symm⟩⟩

theorem withoutEnding_iff_stageEnding {stage cs rest : List Char} :
    WithoutEnding ('-' :: stage) cs rest ↔ cs = rest ++ stageEnding stage cs := by
  unfold WithoutEnding stageEnding
  split
  · rename_i hending
    obtain ⟨front, hfront⟩ := hending
    exact ⟨fun h => h.resolve_right fun hno => hno.1 front hfront.symm, .inl⟩
  · rename_i hending
    have hno : ∀ front, ¬ cs = front ++ '-' :: stage := fun front h => hending ⟨front, h.symm⟩
    rw [List.append_nil]
    exact ⟨fun h => (h.resolve_left (hno rest)).2.symm, fun h => .inr ⟨hno, h.symm⟩⟩

/-- **Identities go by the rule**, whatever their identifier and region are. -/
theorem names_iff {r : Resource} {region id rawName name : String} :
    r.Names rawName name ↔ (candidate r region id rawName).canonicalName = name := by
  rw [← isNamed_iff]
  constructor
  · rintro (hservice | ⟨hservice, hstage⟩ | ⟨hservice, hstage, hstart, hending⟩)
    · exact .service hservice
    · exact .raw hservice hstage
    · exact .staged hservice hstage (withoutStart_iff_stageStart.2 hstart) (withoutEnding_iff_stageEnding.2 hending)
  · rintro (hservice | ⟨hservice, hstage⟩ | ⟨hservice, hstage, hstart, hending⟩)
    · exact .service hservice
    · exact .raw hservice hstage
    · exact .staged hservice hstage (withoutStart_iff_stageStart.1 hstart) (withoutEnding_iff_stageEnding.1 hending)

/-- **The rule gives one name.** -/
theorem existsUnique_names (r : Resource) (rawName : String) : ∃! name, r.Names rawName name :=
  have hnames (name : String) : r.Names rawName name ↔ (candidate r "" "" rawName).canonicalName = name := names_iff
  ⟨_, (hnames _).2 rfl, fun _ h => ((hnames _).1 h).symm⟩

/-- Nothing but the raw name and the values of two tags makes a difference to the name. -/
theorem names_congr {r d : Resource} (hservice : d.valueOf? serviceTag = r.valueOf? serviceTag)
    (hstage : d.valueOf? stageTag = r.valueOf? stageTag) {rawName name : String} (h : r.Names rawName name) :
    d.Names rawName name := by
  rcases h with hs | ⟨hs, ht⟩ | ⟨hs, ht, hstart, hending⟩
  · exact .service (hservice.trans hs)
  · exact .raw (hservice.trans hs) (hstage.trans ht)
  · exact .staged (hservice.trans hs) (hstage.trans ht) hstart hending

/-- **With a stage, the raw name is the name between what is dropped on both sides.** What is dropped at the end is
looked for behind what is dropped at the beginning. -/
theorem names_iff_append {r : Resource} {rawName stage name : String} (hservice : r.valueOf? serviceTag = none)
    (hstage : r.valueOf? stageTag = some stage) :
    r.Names rawName name ↔
      rawName.toList = stageStart stage.toList rawName.toList ++ name.toList ++
        stageEnding stage.toList (rawName.toList.drop (stageStart stage.toList rawName.toList).length) := by
  have hdrop : ∀ {start rest : List Char}, rawName.toList = start ++ rest → rawName.toList.drop start.length = rest :=
    fun h => by rw [h, List.drop_left]
  rw [List.append_assoc]
  constructor
  · rintro (hs | ⟨_, ht⟩ | ⟨_, ht, hstart, hending⟩)
    · rw [hservice] at hs
      cases hs
    · rw [hstage] at ht
      cases ht
    · rw [hstage] at ht
      cases ht
      rw [hdrop hstart, ← hending]
      exact hstart
  · intro h
    exact .staged hservice hstage h (by rw [← hdrop h]; exact hdrop h)

/-- What stands between the stage on both sides is the name. -/
theorem names_between {r : Resource} {stage name : String} (hservice : r.valueOf? serviceTag = none)
    (hstage : r.valueOf? stageTag = some stage) : r.Names (stage ++ "-" ++ name ++ "-" ++ stage) name := by
  have hraw : (stage ++ "-" ++ name ++ "-" ++ stage).toList =
      (stage.toList ++ ['-']) ++ (name.toList ++ '-' :: stage.toList) := by
    simp
  have hstart : stageStart stage.toList (stage ++ "-" ++ name ++ "-" ++ stage).toList = stage.toList ++ ['-'] :=
    if_pos ⟨_, hraw.symm⟩
  have hending : stageEnding stage.toList (name.toList ++ '-' :: stage.toList) = '-' :: stage.toList :=
    if_pos ⟨_, rfl⟩
  exact .staged hservice hstage (by rw [hstart]; exact hraw) (by rw [hending])

/-! ## What a resource has to have -/

variable {r : Resource} {region : String}

/-- A text that is not there, or empty. -/
theorem filter_isEmpty_eq_none {o : Option String} (h : ∀ x, o = some x → x = "") :
    o.filter (!·.isEmpty) = none := by
  rw [Option.filter_eq_none_iff]
  intro x hx
  simp [h x hx]

theorem ofResource_noRegion : ofResource r "" = .error .noRegion := by
  rw [ofResource_eq]
  rfl

theorem ofResource_noId (hregion : region ≠ "") (hid : ∀ id, r.id? = some id → id = "") :
    ofResource r region = .error .noId := by
  rw [ofResource_eq, filter_isEmpty_eq_none hid, String.isEmpty_eq_false_iff.2 hregion]
  rfl

theorem ofResource_noName {id : String} (hregion : region ≠ "") (hid : r.id? = some id) (hid' : id ≠ "")
    (hname : ∀ name, r.name? = some name → name = "") : ofResource r region = .error (.noName id) := by
  rw [ofResource_eq, filter_isEmpty_eq_some.2 ⟨hid, String.isEmpty_eq_false_iff.2 hid'⟩, filter_isEmpty_eq_none hname,
    String.isEmpty_eq_false_iff.2 hregion]
  rfl

theorem ofResource_emptyCatalogName {id rawName : String} (hregion : region ≠ "") (hid : r.id? = some id)
    (hid' : id ≠ "") (hname : r.name? = some rawName) (hname' : rawName ≠ "") (hnames : r.Names rawName "") :
    ofResource r region = .error (.emptyCatalogName id) := by
  rw [ofResource_eq, filter_isEmpty_eq_some.2 ⟨hid, String.isEmpty_eq_false_iff.2 hid'⟩,
    filter_isEmpty_eq_some.2 ⟨hname, String.isEmpty_eq_false_iff.2 hname'⟩, String.isEmpty_eq_false_iff.2 hregion]
  simp only [Bool.false_eq_true, ↓reduceIte, names_iff.1 hnames]
  rfl

/-- **What an identity takes from its resource**, with the name that the rule gives. -/
theorem ofResource_eq_ok_iff_names {i : Identity} :
    ofResource r region = .ok i ↔
      region ≠ "" ∧ r.id? = some i.id ∧ i.id ≠ "" ∧ r.name? = some i.rawName ∧ i.rawName ≠ "" ∧
        i.canonicalName ≠ "" ∧ r.Names i.rawName i.canonicalName ∧ i = candidate r region i.id i.rawName := by
  simp only [ofResource_eq_ok_iff, String.isEmpty_eq_false_iff]
  constructor
  · rintro ⟨hregion, hid, hid', hname, hname', hcanonical, hi⟩
    exact ⟨hregion, hid, hid', hname, hname', hcanonical, names_iff.2 (congrArg canonicalName hi.symm), hi⟩
  · rintro ⟨hregion, hid, hid', hname, hname', hcanonical, _, hi⟩
    exact ⟨hregion, hid, hid', hname, hname', hcanonical, hi⟩

/-- **What a resource has to have for an identity.** -/
theorem exists_ofResource_iff :
    (∃ i, ofResource r region = .ok i) ↔
      region ≠ "" ∧ ∃ id rawName name, r.id? = some id ∧ id ≠ "" ∧ r.name? = some rawName ∧ rawName ≠ "" ∧
        r.Names rawName name ∧ name ≠ "" := by
  constructor
  · rintro ⟨i, hi⟩
    obtain ⟨hregion, hid, hid', hname, hname', hcanonical, hnames, _⟩ := ofResource_eq_ok_iff_names.1 hi
    exact ⟨hregion, i.id, i.rawName, i.canonicalName, hid, hid', hname, hname', hnames, hcanonical⟩
  · rintro ⟨hregion, id, rawName, name, hid, hid', hname, hname', hnames, hne⟩
    have hcanonical : (candidate r region id rawName).canonicalName = name := names_iff.1 hnames
    exact ⟨candidate r region id rawName, ofResource_eq_ok_iff_names.2
      ⟨hregion, hid, hid', hname, hname', by rwa [hcanonical], by rwa [hcanonical], rfl⟩⟩

/-- **Which resources have an identity, and under which name.** A resource has an identity exactly when region,
identifier, raw name and name are there and not empty; otherwise the fault is that of the first of these, in this order,
that is missing or empty. The name is the one that the rule gives, and the rule gives one: the value of the service tag,
or else the raw name, without one stage and hyphen before it and one hyphen and stage behind the rest when there is a
stage, so that the raw name is what has been dropped on both sides and the name between. What stands between two stages
is the name, and identities whose resources agree on raw name, service tag and stage agree on the name. Where each key
stands once, the value of a tag is the one that is listed. -/
theorem identity_of_resource (r : Resource) (region : String) :
    ((∃ i, ofResource r region = .ok i) ↔
      region ≠ "" ∧ ∃ id rawName name, r.id? = some id ∧ id ≠ "" ∧ r.name? = some rawName ∧ rawName ≠ "" ∧
        r.Names rawName name ∧ name ≠ "") ∧
    (region = "" → ofResource r region = .error .noRegion) ∧
    (region ≠ "" → (∀ id, r.id? = some id → id = "") → ofResource r region = .error .noId) ∧
    (∀ id, region ≠ "" → r.id? = some id → id ≠ "" → (∀ rawName, r.name? = some rawName → rawName = "") →
      ofResource r region = .error (.noName id)) ∧
    (∀ id rawName, region ≠ "" → r.id? = some id → id ≠ "" → r.name? = some rawName → rawName ≠ "" →
      r.Names rawName "" → ofResource r region = .error (.emptyCatalogName id)) ∧
    (∀ i, ofResource r region = .ok i →
      i.region = region ∧ r.id? = some i.id ∧ r.name? = some i.rawName ∧ r.Names i.rawName i.canonicalName) ∧
    (∀ rawName, ∃! name, r.Names rawName name) ∧
    (∀ rawName name, r.valueOf? serviceTag = some name → r.Names rawName name) ∧
    (∀ rawName, r.valueOf? serviceTag = none → r.valueOf? stageTag = none → r.Names rawName rawName) ∧
    (∀ rawName stage, r.valueOf? serviceTag = none → r.valueOf? stageTag = some stage → ∀ name,
      r.Names rawName name ↔
        rawName.toList = stageStart stage.toList rawName.toList ++ name.toList ++
          stageEnding stage.toList (rawName.toList.drop (stageStart stage.toList rawName.toList).length)) ∧
    (∀ stage name, r.valueOf? serviceTag = none → r.valueOf? stageTag = some stage →
      r.Names (stage ++ "-" ++ name ++ "-" ++ stage) name) ∧
    (∀ (d : Resource) (region' : String) (i j : Identity), ofResource r region = .ok i → ofResource d region' = .ok j →
      j.rawName = i.rawName → d.valueOf? serviceTag = r.valueOf? serviceTag →
        d.valueOf? stageTag = r.valueOf? stageTag → j.canonicalName = i.canonicalName) ∧
    ((r.tags.map (·.1)).Nodup → ∀ key value, r.valueOf? key = some value ↔ (key, some value) ∈ r.tags) := by
  refine ⟨exists_ofResource_iff, fun h => h ▸ ofResource_noRegion, ofResource_noId, fun _ => ofResource_noName,
    fun _ _ => ofResource_emptyCatalogName, fun i hi => ?_, existsUnique_names r, fun _ _ => .service, fun _ => .raw,
    fun _ _ hservice hstage _ => names_iff_append hservice hstage, fun _ _ => names_between,
    fun d region' i j hi hj hraw hservice hstage => ?_, fun hkeys _ _ => Resource.valueOf?_eq_some_iff hkeys⟩
  · obtain ⟨_, hid, _, hname, _, _, hnames, _⟩ := ofResource_eq_ok_iff_names.1 hi
    exact ⟨region_of_ofResource hi, hid, hname, hnames⟩
  · obtain ⟨_, _, _, _, _, _, hi, _⟩ := ofResource_eq_ok_iff_names.1 hi
    obtain ⟨_, _, _, _, _, _, hj, _⟩ := ofResource_eq_ok_iff_names.1 hj
    rw [hraw] at hj
    exact (existsUnique_names d i.rawName).unique hj (names_congr hservice hstage hi)

end Identity
end GatewayRegistrar
