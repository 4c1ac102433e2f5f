import GatewayRegistrar.Proofs.Config.Omission

/-!
# Documents that leave settings out

A revision leaves settings out of the document of a configuration and adds unknown keys to it; the one that does nothing
leaves the document as it is (`Revision.document_unchanged`). Where a revision leaves out only standard settings, its
tables can still stand in a document (`Fits.sheet`) and abridge the configuration (`Fits.abridges`). So every such
document is read as the configuration, as is every other text whose table abridges it; and a text whose table lacks what
is required gives no configuration at all (`omitted_settings_mean_defaults`).
-/

namespace GatewayRegistrar
namespace Config

open Toml

/-- What is done to the document of a configuration: keys of parts that are left out, the table of the policy, if it is
left out, and entries that are added to the tables of parts and to the document. -/
structure Revision where
  omitted : Part → List String := fun _ => []
  withoutPolicy : Bool := false
  added : Part → List (String × Value) := fun _ => []
  addedAbove : List (String × Value) := []

namespace Revision

/-- What remains of the table of a part, behind what is added to it. -/
def entries (r : Revision) (c : Config) (p : Part) : List (String × Value) :=
  r.added p ++ (p.entries c).filter (·.1 ∉ r.omitted p)

/-- The parts that remain. -/
def parts (r : Revision) : List Part := Part.all.filter fun p => !(r.withoutPolicy && p = .policy)

/-- The tables that remain. -/
def tables (r : Revision) (c : Config) : List (String × List (String × Value)) :=
  r.parts.map fun p => (p.name, r.entries c p)

/-- The document that remains. -/
def document (r : Revision) (c : Config) : String := print (.table (r.addedAbove ++ tableEntries (r.tables c)))

/-- Only settings that may be missing and are the standard ones are left out, and only unknown keys with plain values
are added, each once. -/
structure Fits (r : Revision) (now : String) (c : Config) : Prop where
  omitted : ∀ p, ∀ k ∈ r.omitted p, k ∈ p.optional ∧ entryOf? k (p.entries c) = entryOf? k (p.entries (.standard now))
  withoutPolicy : r.withoutPolicy = true → c.policy = .standard
  added : ∀ p, ∀ e ∈ r.added p, e.1 ∉ p.keys ∧ Plain nestingLimit e.2
  addedOnce : ∀ p, ((r.added p).map (·.1)).Nodup
  addedAbove : ∀ e ∈ r.addedAbove, e.1 ∉ Part.all.map Part.name ∧ Plain nestingLimit e.2
  addedAboveOnce : (r.addedAbove.map (·.1)).Nodup

variable {r : Revision} {now : String} {c : Config} {p : Part} {k : String}

/-- A revision that does nothing. -/
theorem document_unchanged (c : Config) : ({} : Revision).document c = c.toDocument := by
  have htables : ({} : Revision).tables c = Part.all.map fun p => (p.name, p.entries c) := by
    simp [tables, parts, entries]
  rw [document, htables, Config.toDocument, Part.encode_eq]
  rfl

theorem mem_parts_iff : p ∈ r.parts ↔ (r.withoutPolicy = true → p ≠ .policy) := by
  rw [parts, List.mem_filter]
  cases r.withoutPolicy <;> simp [p.mem_all]

/-! ## Keys -/

theorem keys_kept_sublist (r : Revision) (c : Config) (p : Part) :
    (((p.entries c).filter (·.1 ∉ r.omitted p)).map (·.1)).Sublist p.keys :=
  (List.filter_sublist.map _).trans (p.keys_entries_sublist c)

namespace Fits

theorem nodup_entries (h : r.Fits now c) (p : Part) : ((r.entries c p).map (·.1)).Nodup := by
  have hkept := r.keys_kept_sublist c p
  rw [entries, List.map_append, List.nodup_append]
  refine ⟨h.addedOnce p, p.nodup_keys.sublist hkept, fun k hk l hl => ?_⟩
  rintro rfl
  obtain ⟨e, he, rfl⟩ := List.mem_map.1 hk
  exact (h.added p e he).1 (hkept.subset hl)

theorem keys_tables (r : Revision) (c : Config) : (tableEntries (r.tables c)).map (·.1) = r.parts.map Part.name := by
  simp [tableEntries, tables, Function.comp_def]

theorem nodup_tables (h : r.Fits now c) : (r.addedAbove.map (·.1) ++ r.parts.map Part.name).Nodup := by
  have hparts : (r.parts.map Part.name).Sublist (Part.all.map Part.name) := List.filter_sublist.map _
  refine List.nodup_append.2 ⟨h.addedAboveOnce, Part.nodup_names.sublist hparts, fun k hk l hl => ?_⟩
  rintro rfl
  obtain ⟨e, he, rfl⟩ := List.mem_map.1 hk
  exact (h.addedAbove e he).1 (hparts.subset hl)

/-! ## Tables -/

/-- **The tables that remain can stand in a document.** -/
theorem sheet (h : r.Fits now c) (hc : c.IsNormal) : Sheet pathLimit (r.addedAbove ++ tableEntries (r.tables c)) := by
  have hall : c.tables (.integer c.policy.port.toNat) = Part.all.map fun p => (p.name, p.entries c) := rfl
  have hparts := Config.sheet_of_mem_tables (Config.plain_port c.policy.port) hc.nodeMeta.nodup hc.serviceMeta.nodup
  refine .mk (fun e he => (h.addedAbove e he).2) (fun t ht => ?_) ?_
  · obtain ⟨p, _, rfl⟩ := List.mem_map.1 ht
    have hpart : Sheet 79 (p.entries c) := hparts (p.name, p.entries c) (hall ▸ List.mem_map.2 ⟨p, p.mem_all, rfl⟩)
    have hnodup := h.nodup_entries p
    rw [entries, List.map_append] at hnodup
    exact (hpart.filter _).append (fun e he => (h.added p e he).2) hnodup
  · have hnodup := h.nodup_tables
    rwa [← keys_tables r c, tableEntries, List.map_map] at hnodup

/-- A setting that remains is the one of the configuration. -/
theorem entryOf?_entries (h : r.Fits now c) (hk : k ∈ p.keys) :
    entryOf? k (r.entries c p) = if k ∈ r.omitted p then none else entryOf? k (p.entries c) := by
  have hadded : k ∉ (r.added p).map (·.1) := by
    intro hmem
    obtain ⟨e, he, rfl⟩ := List.mem_map.1 hmem
    exact (h.added p e he).1 hk
  rw [entries, entryOf?_append_of_notMem hadded, entryOf?_filter]

/-- **What remains abridges the configuration.** -/
theorem abridges (h : r.Fits now c) : c.Abridges now (r.addedAbove ++ tableEntries (r.tables c)) := by
  have hpart : ∀ p, Part.Abridges now c p (r.entries c p) := by
    intro p
    refine ⟨once_of_nodup (h.nodup_entries p), fun k hk v hv => ?_, fun k hk hnone => ?_⟩
    · rw [h.entryOf?_entries hk] at hv
      split at hv
      · cases hv
      · exact ⟨v, hv, .refl v⟩
    · rw [h.entryOf?_entries hk] at hnone
      split at hnone
      · rename_i homitted
        exact h.omitted p k homitted
      · rw [hnone]
        obtain ⟨hoptional, hstandard⟩ := Part.entryOf?_eq_none hk hnone now
        exact ⟨hoptional, hstandard.symm⟩
  have habove : ∀ p, Part.name p ∉ r.addedAbove.map (·.1) := by
    intro p hmem
    obtain ⟨e, he, hname⟩ := List.mem_map.1 hmem
    exact (h.addedAbove e he).1 (hname ▸ List.mem_map_of_mem p.mem_all)
  have hkeys := h.nodup_tables
  rw [← keys_tables r c, ← List.map_append] at hkeys
  refine ⟨once_of_nodup hkeys, fun p v hv => ?_, fun p hnone => ?_⟩
  · rw [entryOf?_append_of_notMem (habove p)] at hv
    obtain ⟨t, ht, hentry⟩ := List.mem_map.1 (mem_of_entryOf? hv)
    obtain ⟨q, _, rfl⟩ := List.mem_map.1 ht
    obtain ⟨hname, rfl⟩ := Prod.mk.inj hentry
    obtain rfl := Part.name_injective hname
    exact ⟨_, rfl, hpart q⟩
  · rw [entryOf?_append_of_notMem (habove p), entryOf?_eq_none_iff, keys_tables] at hnone
    have hout : p ∉ r.parts := fun hmem => hnone (List.mem_map_of_mem hmem)
    obtain ⟨hwithout, hp⟩ : r.withoutPolicy = true ∧ p = .policy := by
      simpa only [mem_parts_iff, Classical.not_imp, not_not] using hout
    exact ⟨hp, h.withoutPolicy hwithout⟩

end Fits
end Revision

/-! ## Documents -/

variable {now document : String} {c : Config} {es : List (String × Value)}

theorem ofDocument_of_abridges (hparse : parse? document = some (.table es)) (h : c.Abridges now es) (hc : c.IsNormal) :
    ofDocument now document = .ok c := by
  simp only [ofDocument, hparse, decode_of_abridges h hc, Except.mapError]

theorem ofDocument_of_lacks (hparse : parse? document = some (.table es)) (h : Lacks es) :
    ∃ fault, ofDocument now document = .error fault := by
  simp only [ofDocument, hparse]
  cases hdecode : decode now (.table es) with
  | error fault => exact ⟨.decoding fault, rfl⟩
  | ok d => exact absurd h (not_lacks_of_decode hdecode)

/-- **Settings that are left out mean the defaults.** The document of a configuration is read as that configuration; and
so is every revision of it that leaves out standard settings only, and every other text whose table abridges the
configuration, whatever unknown keys it has besides. But a text whose table lacks something that is required gives no
configuration: it cannot be loaded under any environment, whatever else it says. -/
theorem omitted_settings_mean_defaults (now : String) {c : Config} (hc : c.IsNormal) :
    ofDocument now c.toDocument = .ok c ∧
    (∀ r : Revision, r.Fits now c → ofDocument now (r.document c) = .ok c) ∧
    (∀ document es, parse? document = some (.table es) → c.Abridges now es → ofDocument now document = .ok c) ∧
    (∀ document es, parse? document = some (.table es) → Lacks es →
      ∃ fault, ofDocument now document = .error fault ∧ ∀ env, load now env document = .error (.document fault)) := by
  refine ⟨ofDocument_toDocument now hc (.refl c), fun r hr => ?_, fun document es hparse h => ?_,
    fun document es hparse h => ?_⟩
  · exact ofDocument_of_abridges (parse?_print (hr.sheet hc)) hr.abridges hc
  · exact ofDocument_of_abridges hparse h hc
  · obtain ⟨fault, hfault⟩ := ofDocument_of_lacks hparse h
    refine ⟨fault, hfault, fun env => ?_⟩
    rw [load, hfault]
    rfl

/-- A document with nothing but what is required, a list of exclusions and two unknown keys; and one without a region. -/
theorem omitted_settings_of_short_document :
    let c : Config := { Config.standard "now" with
      region := "eu-west-1", polling := { interval := "30s", exclusions := ["Name=tag:service,Values=legacy"] } }
    let r : Revision := {
      omitted := fun
        | .metadata => ["created_at", "last_modified"]
        | .polling => ["filters", "tags", "compact_tags"]
        | _ => []
      withoutPolicy := true
      added := fun
        | .polling => [("jitter", .integer 5)]
        | _ => []
      addedAbove := [("comment", .text "short")] }
    let kept := (tableEntries (c.tables (.integer 443))).filter (·.1 ∉ ["aws"])
    c.IsNormal ∧ r.Fits "now" c ∧ ofDocument "now" (r.document c) = .ok c ∧
      ∃ fault, ofDocument "now" (print (.table kept)) = .error fault := by
  intro c r kept
  have hc : c.IsNormal := ⟨(isNormal_standard "now").nodeMeta, (isNormal_standard "now").serviceMeta⟩
  have hr : r.Fits "now" c := by
    refine ⟨fun p k hk => ?_, fun _ => rfl, fun p e he => ?_, fun p => ?_, fun e he => ?_, ?_⟩
    · cases p with
      | metadata =>
        simp only [r, List.mem_cons, List.not_mem_nil, or_false] at hk
        rcases hk with rfl | rfl <;> exact ⟨by decide, rfl⟩
      | polling =>
        simp only [r, List.mem_cons, List.not_mem_nil, or_false] at hk
        rcases hk with rfl | rfl | rfl <;> exact ⟨by decide, rfl⟩
      | _ => cases hk
    · cases p with
      | polling =>
        obtain rfl := List.mem_singleton.1 he
        exact ⟨by decide, .integer _ (by decide) (by decide)⟩
      | _ => cases he
    · cases p <;> decide
    · obtain rfl := List.mem_singleton.1 he
      exact ⟨by decide, .text _ _⟩
    · decide
  obtain ⟨_, hread, _, hfails⟩ := omitted_settings_mean_defaults "now" hc
  have hsheet := (sheet_tables (plain_port c.policy.port) hc.nodeMeta.nodup hc.serviceMeta.nodup).filter (·.1 ∉ ["aws"])
  have hlacks : Lacks kept := .inl ⟨.region, by decide, by
    rw [entryOf?_filter]
    rfl⟩
  obtain ⟨fault, hfault, _⟩ := hfails _ kept (parse?_print hsheet) hlacks
  exact ⟨hc, hr, hread r hr, fault, hfault⟩

end Config

end GatewayRegistrar
