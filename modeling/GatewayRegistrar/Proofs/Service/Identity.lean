import GatewayRegistrar.Service.Identity

/-!
# Identities and their names

`Identity.ofResource` asks for a region, an identifier, a raw name and a name in the catalog, in this order, and none of
them may be empty (`ofResource_eq`). An identity takes what it has from its resource (`ofResource_eq_ok_iff`). In one
region the address tells identifiers apart (`id_eq_of_address_eq`). The name in the catalog is the service tag, or the
raw name without one stage at either end: `IsNamed` states the rule, and `canonicalName` follows it (`isNamed_iff`).
-/

namespace GatewayRegistrar
namespace Identity

/-- The identity that a resource would have with an identifier and a raw name. -/
def candidate (r : Resource) (region id rawName : String) : Identity where
  id := id
  rawName := rawName
  region := region
  tags := r.tags.filterMap fun (k, v) => v.map fun v => (k, v)
  stageNames := r.stageNames

/-- **What is asked for, in its order.** -/
theorem ofResource_eq (r : Resource) (region : String) :
    ofResource r region =
      if region.isEmpty then .error .noRegion
      else
        match r.id?.filter (!·.isEmpty), r.name?.filter (!·.isEmpty) with
        | none, _ => .error .noId
        | some id, none => .error (.noName id)
        | some id, some rawName =>
          if (candidate r region id rawName).canonicalName.isEmpty then .error (.emptyCatalogName id)
          else .ok (candidate r region id rawName) := by
  unfold ofResource
  cases region.isEmpty with
  | true => rfl
  | false =>
    cases r.id?.filter (!·.isEmpty) with
    | none => rfl
    | some id =>
      cases r.name?.filter (!·.isEmpty) with
      | none => rfl
      | some rawName =>
        show (if (candidate r region id rawName).canonicalName.isEmpty = true then _ else _) =
          if (candidate r region id rawName).canonicalName.isEmpty = true then _ else _
        cases (candidate r region id rawName).canonicalName.isEmpty <;> rfl

/-- A text that is there and not empty. -/
theorem filter_isEmpty_eq_some {o : Option String} {x : String} :
    o.filter (!·.isEmpty) = some x ↔ o = some x ∧ x.isEmpty = false := by
  rw [Option.filter_eq_some_iff, Bool.not_eq_true']

/-- **What an identity takes from its resource**, and what the resource has to have for it. -/
theorem ofResource_eq_ok_iff {r : Resource} {region : String} {i : Identity} :
    ofResource r region = .ok i ↔
      region.isEmpty = false ∧ r.id? = some i.id ∧ i.id.isEmpty = false ∧ r.name? = some i.rawName ∧
        i.rawName.isEmpty = false ∧ i.canonicalName.isEmpty = false ∧ i = candidate r region i.id i.rawName := by
  rw [ofResource_eq]
  constructor
  · intro h
    split at h
    · cases h
    · rename_i hregion
      split at h
      · cases h
      · cases h
      · rename_i id rawName hid hname
        split at h
        · cases h
        · rename_i hcanonical
          cases h
          obtain ⟨hid, hid'⟩ := filter_isEmpty_eq_some.1 hid
          obtain ⟨hname, hname'⟩ := filter_isEmpty_eq_some.1 hname
          exact ⟨by simpa using hregion, hid, hid', hname, hname', by simpa using hcanonical, rfl⟩
  · rintro ⟨hregion, hid, hid', hname, hname', hcanonical, hi⟩
    rw [filter_isEmpty_eq_some.2 ⟨hid, hid'⟩, filter_isEmpty_eq_some.2 ⟨hname, hname'⟩]
    simp only [hregion, Bool.false_eq_true, ↓reduceIte, ← hi, hcanonical]

theorem id?_of_ofResource {r : Resource} {region : String} {i : Identity} (h : ofResource r region = .ok i) :
    r.id? = some i.id :=
  (ofResource_eq_ok_iff.1 h).2.1

theorem region_of_ofResource {r : Resource} {region : String} {i : Identity} (h : ofResource r region = .ok i) :
    i.region = region := by
  obtain ⟨_, _, _, _, _, _, hi⟩ := ofResource_eq_ok_iff.1 h
  rw [hi]
  rfl

/-- In one region the address tells identifiers apart. -/
theorem id_eq_of_address_eq {i j : Identity} (hr : i.region = j.region) (h : i.address = j.address) : i.id = j.id := by
  simp only [address, hr, String.append_assoc] at h
  exact String.append_left_inj _ |>.1 h

/-! ## Names in the catalog -/

/-- `rest` is the text without `start` before it, or the text itself when it does not begin with `start`. -/
def WithoutStart (start cs rest : List Char) : Prop :=
  cs = start ++ rest ∨ (∀ front, ¬ cs = start ++ front) ∧ rest = cs

/-- `rest` is the text without `ending` behind it, or the text itself when it does not end with `ending`. -/
def WithoutEnding (ending cs rest : List Char) : Prop :=
  cs = rest ++ ending ∨ (∀ front, ¬ cs = front ++ ending) ∧ rest = cs

/-- A result with the property that results have, or the default where nothing has it. -/
theorem getD_eq_iff {α : Type} {o : Option α} {P : α → Prop} (h : ∀ x, o = some x ↔ P x) {a b : α} :
    o.getD a = b ↔ P b ∨ (∀ x, ¬ P x) ∧ b = a := by
  cases o with
  | none =>
    have hn : ∀ x, ¬ P x := fun x hx => by cases (h x).2 hx
    constructor
    · rintro rfl
      exact .inr ⟨hn, rfl⟩
    · rintro (hb | ⟨_, rfl⟩)
      · exact absurd hb (hn b)
      · rfl
  | some x =>
    constructor
    · rintro rfl
      exact .inl ((h x).1 rfl)
    · rintro (hb | ⟨hn, _⟩)
      · exact Option.some.inj ((h b).2 hb)
      · exact absurd ((h x).1 rfl) (hn x)

theorem withoutStart_iff {start cs rest : List Char} :
    WithoutStart start cs rest ↔ (dropStart? start cs).getD cs = rest :=
  (getD_eq_iff fun _ => dropStart?_eq_some_iff).symm

theorem withoutEnding_iff {ending cs rest : List Char} :
    WithoutEnding ending cs rest ↔ (dropEnding? ending cs).getD cs = rest :=
  (getD_eq_iff fun _ => dropEnding?_eq_some_iff).symm

/-- **The rule for names**: the service tag counts; without it the raw name does, and where there is a stage, without
one stage before it and then without one behind the rest. -/
inductive IsNamed (i : Identity) : String → Prop
  | service {name : String} : entryOf? serviceTag i.tags = some name → IsNamed i name
  | raw : entryOf? serviceTag i.tags = none → entryOf? stageTag i.tags = none → IsNamed i i.rawName
  | staged {stage name : String} {rest : List Char} :
      entryOf? serviceTag i.tags = none → entryOf? stageTag i.tags = some stage →
        WithoutStart (stage.toList ++ ['-']) i.rawName.toList rest →
          WithoutEnding ('-' :: stage.toList) rest name.toList → IsNamed i name

/-- The name in the catalog is the one that the rule gives. -/
theorem isNamed_iff {i : Identity} {name : String} : i.IsNamed name ↔ i.canonicalName = name := by
  constructor
  · rintro (hservice | ⟨hservice, hstage⟩ | ⟨hservice, hstage, hstart, hending⟩)
    · simp only [canonicalName, hservice]
    · simp only [canonicalName, hservice, hstage]
    · rw [withoutStart_iff] at hstart
      rw [withoutEnding_iff] at hending
      simp only [canonicalName, hservice, hstage, withoutStage, hstart, hending, String.ofList_toList]
  · rintro rfl
    cases hservice : entryOf? serviceTag i.tags with
    | some name =>
      have hname : i.canonicalName = name := by simp only [canonicalName, hservice]
      exact .service (by rw [hname]; exact hservice)
    | none =>
      cases hstage : entryOf? stageTag i.tags with
      | none =>
        have hname : i.canonicalName = i.rawName := by simp only [canonicalName, hservice, hstage]
        rw [hname]
        exact .raw hservice hstage
      | some stage =>
        have hname : i.canonicalName = String.ofList (withoutStage stage.toList i.rawName.toList) := by
          simp only [canonicalName, hservice, hstage]
        refine .staged hservice hstage (withoutStart_iff.2 rfl) (withoutEnding_iff.2 ?_)
        rw [hname, String.toList_ofList]
        rfl

end Identity
end GatewayRegistrar
