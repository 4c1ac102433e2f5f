import GatewayRegistrar.Proofs.Cycle.Fate
import GatewayRegistrar.Proofs.Service.Identity
import GatewayRegistrar.Proofs.Value.Entries

/-!
# Which tags matter

Of the tags of a resource only those with a value matter (`Resource.valuedTags`, `ofResource_congr`), and their order
matters only where sanitizing makes one key of two: names, filters and templates look tags up by their keys
(`canonicalName_withTags`, `admits_withTags`, `render_withTags`), and the metadata are arranged by theirs
(`sanitizedTags_withTags`). A plan is made of the registrations of the resources and of how many are skipped
(`plan_of_alike`), so neither tags without a value nor the order of the others change it.
-/

namespace GatewayRegistrar

/-! ## Tags of a resource -/

namespace Resource

/-- The tags that have a value. -/
def valuedTags (r : Resource) : List (String × String) := r.tags.filterMap fun (k, v) => v.map fun v => (k, v)

/-- No two of the tags with a value become one key with two values. -/
def ClashFree (r : Resource) : Prop :=
  ∀ e ∈ r.valuedTags, ∀ f ∈ r.valuedTags, sanitize e.1 = sanitize f.1 → sanitize e.2 = sanitize f.2

/-- The same resource, save that its tags may come in another order. -/
structure Arranges (d r : Resource) : Prop where
  id? : d.id? = r.id?
  name? : d.name? = r.name?
  tags : d.tags.Perm r.tags
  stageNames : d.stageNames = r.stageNames

theorem Arranges.valuedTags {d r : Resource} (h : d.Arranges r) : d.valuedTags.Perm r.valuedTags :=
  h.tags.filterMap _

theorem mem_valuedTags {r : Resource} {e : String × String} : e ∈ r.valuedTags ↔ (e.1, some e.2) ∈ r.tags := by
  simp only [valuedTags, List.mem_filterMap, Option.map_eq_some_iff]
  constructor
  · rintro ⟨⟨k, v⟩, hmem, w, rfl, rfl⟩
    exact hmem
  · intro hmem
    exact ⟨_, hmem, e.2, rfl, rfl⟩

/-- Where the keys are distinct, no key has two values. -/
theorem singleValued_valuedTags {r : Resource} (h : (r.tags.map (·.1)).Nodup) : SingleValued r.valuedTags :=
  fun _ he _ hf hkey => Option.some.inj (singleValued_of_nodup h _ (mem_valuedTags.1 he) _ (mem_valuedTags.1 hf) hkey)

end Resource

/-! ## Tags of a service -/

namespace Identity

/-- The same service with other tags. -/
def withTags (i : Identity) (tags : List (String × String)) : Identity := { i with tags }

/-- Only tags with a value make a difference. -/
theorem ofResource_congr {d r : Resource} (hid : d.id? = r.id?) (hname : d.name? = r.name?)
    (htags : d.valuedTags = r.valuedTags) (hstages : d.stageNames = r.stageNames) (region : String) :
    ofResource d region = ofResource r region := by
  have hcandidate : ∀ id rawName, candidate d region id rawName = candidate r region id rawName := fun id rawName => by
    simp only [candidate, hstages]
    exact congrArg (Identity.mk id rawName region · r.stageNames) htags
  simp only [ofResource_eq, hid, hname, hcandidate]

section Order

variable {i : Identity} {tags : List (String × String)} (hi : SingleValued i.tags) (h : tags.Perm i.tags)
include hi h

theorem entryOf?_withTags (k : String) : entryOf? k (i.withTags tags).tags = entryOf? k i.tags := hi.entryOf?_perm h k

theorem canonicalName_withTags : (i.withTags tags).canonicalName = i.canonicalName := by
  simp only [canonicalName, entryOf?_withTags hi h]
  rfl

/-- Templates see the tags in the order of their keys. -/
theorem templateValue_withTags : (i.withTags tags).templateValue = i.templateValue := by
  have hsorted : sortEntries (i.withTags tags).tags = sortEntries i.tags := hi.sortEntries_perm h
  simp only [templateValue, canonicalName_withTags hi h, hsorted]
  rfl

theorem render_withTags (m : TagMode) (room : Nat) (templates : List String) :
    m.render room templates (i.withTags tags) = m.render room templates i := by
  cases m <;> simp only [TagMode.render, renderCompact, renderTags, renderTemplate, templateValue_withTags hi h]

theorem admits_withTags (f : FilterSet) : f.admits (i.withTags tags) = f.admits i := by
  have hpredicate : ∀ p : Predicate, p.admits (i.withTags tags) = p.admits i := fun p => by
    cases p with
    | compiled c => simp only [Predicate.admits, CompiledFilter.admits, entryOf?_withTags hi h]
    | never e => rfl
  simp only [FilterSet.admits, FilterSet.includes, FilterSet.excludes, hpredicate]

omit hi in
/-- Where sanitized keys have one value each, the metadata do not depend on the order of the tags. -/
theorem sanitizedTags_withTags
    (hclash : ∀ e ∈ i.tags, ∀ f ∈ i.tags, sanitize e.1 = sanitize f.1 → sanitize e.2 = sanitize f.2) :
    (i.withTags tags).sanitizedTags = i.sanitizedTags := by
  have hsingle : SingleValued (i.tags.map fun e => (sanitize e.1, sanitize e.2)) := by
    simpa only [SingleValued, List.forall_mem_map] using hclash
  exact hsingle.sortEntries_perm (h.map _)

end Order

/-- The identity of a resource whose tags come in another order. -/
theorem ofResource_arranges {d r : Resource} (h : d.Arranges r) (hr : SingleValued r.valuedTags) (region : String) :
    ofResource d region = (ofResource r region).map (·.withTags d.valuedTags) := by
  rw [ofResource_eq, ofResource_eq, h.id?, h.name?]
  split
  · rfl
  · split
    · rfl
    · rfl
    · rename_i id rawName _ _
      have hcandidate : candidate d region id rawName = (candidate r region id rawName).withTags d.valuedTags := by
        simp only [candidate, withTags, h.stageNames]
        rfl
      rw [hcandidate, canonicalName_withTags (i := candidate r region id rawName) hr h.valuedTags]
      split <;> rfl

end Identity

namespace Settings

variable (s : Settings) (room : Nat)

/-! ## Plans -/

/-- Both resources are skipped, or neither; and both are kept, with the same registration, or neither. -/
structure Alike (d r : Resource) : Prop where
  skipped : (s.fate d).isSkipped = (s.fate r).isSkipped
  kept : (s.fate d).kept?.map (s.registrationFor? room) = (s.fate r).kept?.map (s.registrationFor? room)

theorem alike_of_fate {d r : Resource} (h : s.fate d = s.fate r) : s.Alike room d r := ⟨by rw [h], by rw [h]⟩

variable {s room} in
theorem Alike.isKept {d r : Resource} (h : s.Alike room d r) : (s.fate d).isKept = (s.fate r).isKept := by
  have hkept := congrArg Option.isSome h.kept
  rwa [Option.isSome_map, Option.isSome_map] at hkept

section Plans

variable {s room} {ds rs : List Resource} (h : List.Forall₂ (s.Alike room) ds rs)
include h

theorem planReport_of_alike : s.planReport ds = s.planReport rs := by
  simp only [planReport_eq, Report.mk.injEq, and_true]
  induction h with
  | nil => exact ⟨rfl, rfl, rfl⟩
  | cons hr _ ih => simp only [List.length_cons, List.countP_cons, hr.skipped, hr.isKept, ih, and_self]

theorem map_registrationFor?_of_alike :
    (s.eligible ds).map (s.registrationFor? room) = (s.eligible rs).map (s.registrationFor? room) := by
  simp only [eligible_eq_kept, List.map_filterMap]
  induction h with
  | nil => rfl
  | cons hr _ ih => rw [List.filterMap_cons, List.filterMap_cons, hr.kept, ih]

/-- **A plan is made of the registrations of its resources and of how many are skipped.** -/
theorem plan_of_alike : s.plan room ds = s.plan room rs := by
  have hresults : ∀ services : List Identity,
      services.mapM (s.registrationFor? room) = (services.map (s.registrationFor? room)).mapM id := fun services => by
    rw [List.mapM_map]
    rfl
  rw [plan, plan, hresults, hresults, map_registrationFor?_of_alike h, planReport_of_alike h]

end Plans

theorem fate_congr {d r : Resource} (h : Identity.ofResource d s.region = Identity.ofResource r s.region) :
    s.fate d = s.fate r := by
  rw [fate, h, fate]

/-- A tag without a value changes no plan. -/
theorem plan_valueless (xs : List Resource) (r : Resource) (ys : List Resource)
    (front back : List (String × Option String)) (key : String) :
    s.plan room (xs ++ { r with tags := front ++ (key, none) :: back } :: ys) =
      s.plan room (xs ++ { r with tags := front ++ back } :: ys) := by
  have hvalued : Resource.valuedTags { r with tags := front ++ (key, none) :: back } =
      Resource.valuedTags { r with tags := front ++ back } := by
    simp [Resource.valuedTags]
  have hfate : s.fate { r with tags := front ++ (key, none) :: back } = s.fate { r with tags := front ++ back } := by
    refine s.fate_congr (Identity.ofResource_congr ?_ ?_ hvalued ?_ s.region) <;> rfl
  have hsame : ∀ zs, List.Forall₂ (s.Alike room) zs zs := fun _ => List.forall₂_same.2 fun _ _ => ⟨rfl, rfl⟩
  exact plan_of_alike (List.rel_append (hsame xs) (.cons (s.alike_of_fate room hfate) (hsame ys)))

/-- The registration of a service does not depend on the order of its tags. -/
theorem registrationFor?_withTags {i : Identity} {tags : List (String × String)} (hi : SingleValued i.tags)
    (h : tags.Perm i.tags)
    (hclash : ∀ e ∈ i.tags, ∀ f ∈ i.tags, sanitize e.1 = sanitize f.1 → sanitize e.2 = sanitize f.2) :
    s.registrationFor? room (i.withTags tags) = s.registrationFor? room i := by
  simp only [registrationFor?, Registration.compose, Identity.canonicalName_withTags hi h,
    Identity.sanitizedTags_withTags h hclash, Identity.render_withTags hi h]
  rfl

/-- **The order of tags matters to no registration** where no two of them clash. -/
theorem alike_of_arranges {d r : Resource} (h : d.Arranges r) (hr : (r.tags.map (·.1)).Nodup)
    (hclash : r.ClashFree) : s.Alike room d r := by
  have hsingle := Resource.singleValued_valuedTags hr
  have hidentity := Identity.ofResource_arranges h hsingle s.region
  cases hi : Identity.ofResource r s.region with
  | error fault =>
    rw [hi] at hidentity
    exact s.alike_of_fate room (by rw [s.fate_of_error hi, s.fate_of_error hidentity])
  | ok i =>
    rw [hi] at hidentity
    have htags : i.tags = r.valuedTags := by
      obtain ⟨_, _, _, _, _, _, hcandidate⟩ := Identity.ofResource_eq_ok_iff.1 hi
      rw [hcandidate]
      rfl
    rw [← htags] at hsingle
    have hperm : d.valuedTags.Perm i.tags := htags ▸ h.valuedTags
    have hregistration := s.registrationFor?_withTags room hsingle hperm (htags ▸ hclash)
    have hd : s.fate d = if s.selection.admits i then .kept (i.withTags d.valuedTags)
        else .filteredOut (i.withTags d.valuedTags) := by
      rw [s.fate_of_ok hidentity, Identity.admits_withTags hsingle hperm]
    have hr := s.fate_of_ok hi
    cases ha : s.selection.admits i <;> simp only [ha, Bool.false_eq_true, ↓reduceIte] at hd hr
    · exact ⟨by rw [hd, hr]; rfl, by rw [hd, hr]; rfl⟩
    · exact ⟨by rw [hd, hr]; rfl, by rw [hd, hr]; exact congrArg some hregistration⟩

/-- **Tags without a value and the order of tags change no plan.** A tag without a value can be put in or taken out
anywhere among the tags of any resource. The tags of all resources can come in another order, provided that the keys of
each resource are distinct and no two of its tags with a value become one key with two values. -/
theorem plan_sees_valued_tags :
    (∀ (xs : List Resource) (r : Resource) (ys : List Resource) (front back : List (String × Option String))
        (key : String),
      s.plan room (xs ++ { r with tags := front ++ (key, none) :: back } :: ys) =
        s.plan room (xs ++ { r with tags := front ++ back } :: ys)) ∧
    ∀ ds rs : List Resource,
      List.Forall₂ (fun d r => d.Arranges r ∧ (r.tags.map (·.1)).Nodup ∧ r.ClashFree) ds rs →
        s.plan room ds = s.plan room rs :=
  ⟨s.plan_valueless room, fun _ _ h =>
    plan_of_alike (h.imp fun _ _ ⟨hd, hr, hclash⟩ => s.alike_of_arranges room hd hr hclash)⟩

/-- A gateway two of whose tags become one key with one value, with the tags in another order and without those that
have no value. -/
theorem plan_sees_tags_of_orders :
    let s : Settings := { (Config.standard "now").settings with templates := ["{{Tags.STAGE}}"] }
    let r : Resource := { Resource.named "a1" "dev-orders" with
      tags := [("service", none), ("STAGE", some "dev"), ("team name", some "a"), ("team-name", some "a")] }
    let d : Resource := { r with tags := [("team-name", some "a"), ("STAGE", some "dev"), ("team name", some "a")] }
    (∀ rs, s.plan 0 (r :: rs) = s.plan 0 ({ r with tags := r.tags.tail } :: rs)) ∧
      d.Arranges { r with tags := r.tags.tail } ∧ ((r.tags.tail).map (·.1)).Nodup ∧
      Resource.ClashFree { r with tags := r.tags.tail } ∧
      s.plan 0 [d] = s.plan 0 [{ r with tags := r.tags.tail }] := by
  intro s r d
  have hd : d.Arranges { r with tags := r.tags.tail } := ⟨rfl, rfl, by decide, rfl⟩
  have hnodup : ((r.tags.tail).map (·.1)).Nodup := by decide
  have hclash : Resource.ClashFree { r with tags := r.tags.tail } := by
    unfold Resource.ClashFree
    decide +kernel
  exact ⟨fun rs => (s.plan_sees_valued_tags 0).1 [] r rs [] r.tags.tail "service", hd, hnodup, hclash,
    (s.plan_sees_valued_tags 0).2 _ _ (.cons ⟨hd, hnodup, hclash⟩ .nil)⟩

end Settings

end GatewayRegistrar
