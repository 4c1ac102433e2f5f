import GatewayRegistrar.Proofs.Text.Sanitized
import GatewayRegistrar.Proofs.Value.Entries
import GatewayRegistrar.Registration.Record

/-!
# The metadata of a registered service

Three maps go into the metadata of a service: its sanitized tags, the mark of the provider, and the metadata of the
policy. Under one key the policy counts most and the tags least (`entryOf?_serviceMetadata`). Sanitizing makes one key
of several, so that what tags say under a key is what one of those says whose keys become it
(`entryOf?_sanitizedTags`); which one, only the order of the tags decides.
-/

namespace GatewayRegistrar

/-! ## Sanitized tags -/

namespace Identity

variable {i : Identity} {k v : String}

/-- What the sanitized tags say under a key is what one of the tags says whose keys become it. -/
theorem entryOf?_sanitizedTags (h : entryOf? k i.sanitizedTags = some v) :
    ∃ e ∈ i.tags, sanitize e.1 = k ∧ sanitize e.2 = v := by
  rw [sanitizedTags, entryOf?_sortEntries] at h
  obtain ⟨e, he, heq⟩ := List.mem_map.1 (List.mem_reverse.1 (mem_of_entryOf? h))
  exact ⟨e, he, congrArg Prod.fst heq, congrArg Prod.snd heq⟩

theorem entryOf?_sanitizedTags_eq_none_iff : entryOf? k i.sanitizedTags = none ↔ ∀ e ∈ i.tags, sanitize e.1 ≠ k := by
  rw [sanitizedTags, entryOf?_sortEntries, entryOf?_eq_none_iff]
  simp

end Identity

/-! ## Metadata -/

namespace Registration

variable {i : Identity} {tags : List String} {policy : Policy} {k : String}

/-- **The policy counts more than the mark of the provider, and this more than the tags.** -/
theorem entryOf?_serviceMetadata (i : Identity) (tags : List String) (hpolicy : (policy.serviceMeta.map (·.1)).Nodup)
    (k : String) :
    entryOf? k (compose i tags policy).serviceMetadata =
      (entryOf? k policy.serviceMeta).or
        (if k = "external-source" then some "aws" else entryOf? k i.sanitizedTags) := by
  have hsingle := singleValued_of_nodup hpolicy
  have hsorted : SingleValued i.sanitizedTags := singleValued_of_nodup (ascending_sortEntries _).nodup
  simp only [compose, entryOf?_sortEntries, List.reverse_append, List.reverse_cons, List.append_assoc,
    List.singleton_append, entryOf?_append, entryOf?_cons, hsingle.entryOf?_perm (List.reverse_perm _),
    hsorted.entryOf?_perm (List.reverse_perm _), providerEntry, eq_comm (a := "external-source")]

/-- What the metadata may say under a key, `none` for nothing: what the policy says; or else, under the key of the
provider's mark, that mark; or else what one of the tags says whose keys become this one. -/
inductive Says (i : Identity) (policy : Policy) (k : String) : Option String → Prop
  | policy {v : String} (h : (k, v) ∈ policy.serviceMeta) : Says i policy k (some v)
  | provider (hpolicy : k ∉ policy.serviceMeta.map (·.1)) (hk : k = "external-source") : Says i policy k (some "aws")
  | tag {e : String × String} (hpolicy : k ∉ policy.serviceMeta.map (·.1)) (hk : k ≠ "external-source")
      (he : e ∈ i.tags) (hkey : sanitize e.1 = k) : Says i policy k (some (sanitize e.2))
  | nothing (hpolicy : k ∉ policy.serviceMeta.map (·.1)) (hk : k ≠ "external-source")
      (htags : ∀ e ∈ i.tags, sanitize e.1 ≠ k) : Says i policy k none

theorem says_serviceMetadata (i : Identity) (tags : List String) (hpolicy : (policy.serviceMeta.map (·.1)).Nodup)
    (k : String) : Says i policy k (entryOf? k (compose i tags policy).serviceMetadata) := by
  rw [entryOf?_serviceMetadata i tags hpolicy]
  cases hgiven : entryOf? k policy.serviceMeta with
  | some v => exact .policy (mem_of_entryOf? hgiven)
  | none =>
    have hnot := entryOf?_eq_none_iff.1 hgiven
    rw [Option.none_or]
    split
    · rename_i hk
      exact .provider hnot hk
    · rename_i hk
      cases htag : entryOf? k i.sanitizedTags with
      | none => exact .nothing hnot hk (Identity.entryOf?_sanitizedTags_eq_none_iff.1 htag)
      | some v =>
        obtain ⟨e, he, hkey, rfl⟩ := Identity.entryOf?_sanitizedTags htag
        exact .tag hnot hk he hkey

/-- The rule does not depend on the order of the tags. -/
theorem Says.of_perm {order : List (String × String)} (horder : order.Perm i.tags) {said : Option String}
    (h : Says { i with tags := order } policy k said) : Says i policy k said := by
  cases h with
  | policy h => exact .policy h
  | provider hpolicy hk => exact .provider hpolicy hk
  | tag hpolicy hk he hkey => exact .tag hpolicy hk (horder.mem_iff.1 he) hkey
  | nothing hpolicy hk htags => exact .nothing hpolicy hk fun e he => htags e (horder.mem_iff.2 he)

/-- What the metadata say is hyphenated, unless the policy says it. -/
theorem Says.isHyphenated {v : String} (h : Says i policy k (some v)) :
    (k, v) ∈ policy.serviceMeta ∨ IsHyphenated k.toList ∧ IsHyphenated v.toList := by
  cases h with
  | policy h => exact .inl h
  | provider _ hk =>
    have hkey : sanitize "external-source" = "external-source" := by decide
    have hvalue : sanitize "aws" = "aws" := by decide
    refine .inr ⟨?_, ?_⟩
    · rw [hk, ← hkey]
      exact isHyphenated_sanitize _
    · rw [← hvalue]
      exact isHyphenated_sanitize _
  | tag _ _ _ hkey => exact .inr ⟨hkey ▸ isHyphenated_sanitize _, isHyphenated_sanitize _⟩

/-- **How the metadata of a service come about.** In whatever order its tags come, the metadata are a map that says
under each key what the policy says, or else the mark of the provider, or else what one of the tags says whose keys
become this key. What stands under the keys of the policy and of the mark is the same for all services; no tag is lost;
and what the policy does not say consists of letters, digits and single hyphens. -/
theorem serviceMetadata_merged (i : Identity) (tags : List String) (policy : Policy)
    (hpolicy : (policy.serviceMeta.map (·.1)).Nodup) (order : List (String × String)) (horder : order.Perm i.tags) :
    let metadata := (compose { i with tags := order } tags policy).serviceMetadata
    Ascending metadata ∧
      (∀ k, Says i policy k (entryOf? k metadata)) ∧
      (∀ k, k ∈ policy.serviceMeta.map (·.1) ∨ k = "external-source" →
        ∀ (other : Identity) (tags : List String),
          entryOf? k (compose other tags policy).serviceMetadata = entryOf? k metadata) ∧
      (∀ e ∈ i.tags, sanitize e.1 ∈ metadata.map (·.1)) ∧
      ∀ e ∈ metadata, e ∈ policy.serviceMeta ∨ IsHyphenated e.1.toList ∧ IsHyphenated e.2.toList := by
  intro metadata
  have hascending : Ascending metadata := ascending_sortEntries _
  have hsays : ∀ k, Says i policy k (entryOf? k metadata) := fun k =>
    (says_serviceMetadata { i with tags := order } tags hpolicy k).of_perm horder
  refine ⟨hascending, hsays, fun k hk other tags => ?_, fun e he => ?_, fun e he => ?_⟩
  · rw [entryOf?_serviceMetadata other tags hpolicy, entryOf?_serviceMetadata _ _ hpolicy]
    rcases hk with hk | rfl
    · obtain ⟨v, hv⟩ := Option.ne_none_iff_exists'.1 (mt entryOf?_eq_none_iff.1 (not_not_intro hk))
      rw [hv, Option.some_or, Option.some_or]
    · rw [if_pos rfl, if_pos rfl]
  · by_contra hmissing
    have hnone := hsays (sanitize e.1)
    rw [entryOf?_eq_none_iff.2 hmissing] at hnone
    cases hnone with
    | nothing _ _ htags => exact htags e he rfl
  · have hlook : entryOf? e.1 metadata = some e.2 :=
      (singleValued_of_nodup hascending.nodup).entryOf?_eq_some_iff.2 he
    exact (hlook ▸ hsays e.1).isHyphenated

/-- Two tags that become one key, one that would be the mark of the provider, and one that the policy pins. -/
theorem serviceMetadata_of_orders :
    let i : Identity :=
      { id := "a1", rawName := "orders", region := "us-west-2", stageNames := [],
        tags := [("team name", "a b"), ("external:source", "gcp"), ("team-name", "c"), ("STAGE", "dev")] }
    let policy : Policy := { Policy.standard with serviceMeta := [("STAGE", "pinned")] }
    (policy.serviceMeta.map (·.1)).Nodup ∧ i.tags.reverse.Perm i.tags ∧
      (compose i [] policy).serviceMetadata =
        [("STAGE", "pinned"), ("external-source", "aws"), ("team-name", "c")] ∧
      (compose { i with tags := i.tags.reverse } [] policy).serviceMetadata =
        [("STAGE", "pinned"), ("external-source", "aws"), ("team-name", "a-b")] ∧
      ∀ k, Says i policy k
        (entryOf? k (compose { i with tags := i.tags.reverse } [] policy).serviceMetadata) := by
  intro i policy
  have hpolicy : (policy.serviceMeta.map (·.1)).Nodup := by decide
  have horder : i.tags.reverse.Perm i.tags := List.reverse_perm _
  exact ⟨hpolicy, horder, by decide +kernel, by decide +kernel,
    (serviceMetadata_merged i [] policy hpolicy i.tags.reverse horder).2.1⟩

end Registration

end GatewayRegistrar
