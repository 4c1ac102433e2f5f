import GatewayRegistrar.Config.Document
import GatewayRegistrar.Proofs.Toml.Documents
import GatewayRegistrar.Proofs.Value.Decoding

/-!
# Configurations and their documents

The maps of a configuration are in normal form (`Config.IsNormal`), as those of every configuration that is read are
(`isNormal_of_decode`). The entries of a map may be written in any order (`Config.Arranges`): what is encoded is decoded
to its normal form (`decode_encode`). The tables of a configuration can stand in a document (`sheet_tables`), so **the
document of a configuration is read as that configuration** (`ofDocument_toDocument`).
-/

namespace GatewayRegistrar
namespace Config

variable {c d : Config}

/-- The maps of the configuration are in normal form. -/
structure IsNormal (c : Config) : Prop where
  nodeMeta : Ascending c.policy.nodeMeta
  serviceMeta : Ascending c.policy.serviceMeta

/-- The same configuration, save that the entries of its maps may come in another order. -/
structure Arranges (d c : Config) : Prop where
  metadata : d.metadata = c.metadata
  region : d.region = c.region
  agent : d.agent = c.agent
  polling : d.polling = c.polling
  port : d.policy.port = c.policy.port
  nodeMeta : d.policy.nodeMeta.Perm c.policy.nodeMeta
  serviceMeta : d.policy.serviceMeta.Perm c.policy.serviceMeta

theorem Arranges.refl (c : Config) : Arranges c c := ⟨rfl, rfl, rfl, rfl, rfl, .refl _, .refl _⟩

/-- The configuration with its maps in normal form. -/
def normalized (d : Config) : Config :=
  { d with policy := ⟨d.policy.port, sortEntries d.policy.nodeMeta, sortEntries d.policy.serviceMeta⟩ }

/-- All arrangements of a configuration have one normal form. -/
theorem Arranges.normalized_eq (hd : d.Arranges c) (hc : c.IsNormal) : d.normalized = c := by
  rw [normalized, sortEntries_of_perm hc.nodeMeta hd.nodeMeta, sortEntries_of_perm hc.serviceMeta hd.serviceMeta,
    hd.metadata, hd.region, hd.agent, hd.polling, hd.port]

/-! ## Decoding -/

theorem decodeMetadata_encoded (now : String) (m : Metadata) :
    decodeMetadata now (.table [("schema_version", .text m.schemaVersion), ("created_at", .text m.createdAt),
      ("last_modified", .text m.lastModified)]) = .ok m := rfl

theorem decodeAgent_encoded (a : CatalogAgent) :
    decodeAgent (.table (("address", .text a.address) :: datacenterEntry a.datacenter?)) = .ok a := by
  obtain ⟨address, _ | datacenter⟩ := a <;> rfl

theorem decodePolling_encoded (p : Polling) :
    decodePolling (.table [("interval", .text p.interval), ("filters", .ofTexts p.filters),
      ("exclusions", .ofTexts p.exclusions), ("tags", .ofTexts p.tags),
      ("compact_tags", .boolean p.compactTags)]) = .ok p := by
  have htexts : ∀ ts, texts (.ofTexts ts) = .ok ts := listOf_ofTexts
  simp [decodePolling, recordEntries, checkEntries, entryOf?, requiredField, optionalField, Decoder.check, htexts,
    Decoder.text, Decoder.boolean, Except.map, bind, Except.bind, pure, Except.pure]

/-- A policy is decoded with its maps in normal form. -/
theorem decodePolicy_encoded {v : Value} {port : UInt16} (hport : Decoder.port v = .ok port)
    (nodeMeta serviceMeta : List (String × String)) :
    decodePolicy (.table [("port", v), ("node_meta", .ofTextTable nodeMeta),
        ("service_meta", .ofTextTable serviceMeta)]) =
      .ok ⟨port, sortEntries nodeMeta, sortEntries serviceMeta⟩ := by
  simp [decodePolicy, recordEntries, checkEntries, entryOf?, requiredField, optionalField, Decoder.check, hport,
    textMap_ofTextTable, Except.map, bind, Except.bind, pure, Except.pure]

/-- A configuration is decoded from its tables. -/
theorem decode_tables {now : String} {metadata region agent polling policy : Value}
    (hmetadata : decodeMetadata now metadata = .ok c.metadata) (hregion : decodeRegion region = .ok c.region)
    (hagent : decodeAgent agent = .ok c.agent) (hpolling : decodePolling polling = .ok c.polling)
    (hpolicy : decodePolicy policy = .ok c.policy) :
    decode now (.table [("_meta", metadata), ("aws", region), ("consul", agent), ("sync", polling),
      ("registration", policy)]) = .ok c := by
  simp [decode, recordEntries, checkEntries, sections, entryOf?, requiredField, optionalField, Decoder.check,
    hmetadata, hregion, hagent, hpolling, hpolicy, Except.map, bind, Except.bind, pure, Except.pure]

/-- **What is encoded of a configuration is decoded to its normal form.** -/
theorem decode_encode (now : String) (d : Config) : decode now d.encode = .ok d.normalized :=
  decode_tables (decodeMetadata_encoded now _) rfl (decodeAgent_encoded _) (decodePolling_encoded _)
    (decodePolicy_encoded (port_toNat _) _ _)

/-! ## Normal forms -/

theorem isNormal_standard (now : String) : (standard now).IsNormal where
  nodeMeta := by simp only [Ascending, standard, Policy.standard, Policy.defaultNodeMeta]; decide
  serviceMeta := List.Pairwise.nil

theorem ascending_of_optionalField {key : String} {fallback es : List (String × String)}
    {entries : List (String × Value)} (hfallback : Ascending fallback)
    (h : optionalField key Policy.textMap fallback entries = .ok es) : Ascending es := by
  unfold optionalField at h
  split at h
  · exact ascending_of_mapOf h
  · cases h
    exact hfallback

/-- Every policy that is decoded has its maps in normal form. -/
theorem ascending_of_decodePolicy {v : Value} {p : Policy} (h : decodePolicy v = .ok p) :
    Ascending p.nodeMeta ∧ Ascending p.serviceMeta := by
  obtain ⟨entries, _, h⟩ := exists_ok_of_bind h
  obtain ⟨port, _, h⟩ := exists_ok_of_bind h
  obtain ⟨nodeMeta, hnode, h⟩ := exists_ok_of_bind h
  obtain ⟨serviceMeta, hservice, h⟩ := exists_ok_of_bind h
  cases h
  exact ⟨ascending_of_optionalField (isNormal_standard "").nodeMeta hnode,
    ascending_of_optionalField List.Pairwise.nil hservice⟩

/-- Every configuration that is read is in normal form. -/
theorem isNormal_of_decode {now : String} {v : Value} (h : decode now v = .ok c) : c.IsNormal := by
  obtain ⟨entries, _, h⟩ := exists_ok_of_bind h
  obtain ⟨_, _, h⟩ := exists_ok_of_bind h
  obtain ⟨_, _, h⟩ := exists_ok_of_bind h
  obtain ⟨_, _, h⟩ := exists_ok_of_bind h
  obtain ⟨_, _, h⟩ := exists_ok_of_bind h
  obtain ⟨policy, hpolicy, h⟩ := exists_ok_of_bind h
  cases h
  unfold optionalField at hpolicy
  split at hpolicy
  · obtain ⟨hnode, hservice⟩ := ascending_of_decodePolicy hpolicy
    exact ⟨hnode, hservice⟩
  · cases hpolicy
    exact ⟨(isNormal_standard now).nodeMeta, (isNormal_standard now).serviceMeta⟩

/-- Every configuration that a document gives is in normal form. -/
theorem isNormal_of_ofDocument {now document : String} (h : ofDocument now document = .ok c) : c.IsNormal := by
  unfold ofDocument at h
  split at h
  · cases h
  · rename_i v _
    cases hdecode : decode now v with
    | error fault =>
      rw [hdecode] at h
      cases h
    | ok d =>
      rw [hdecode] at h
      cases h
      exact isNormal_of_decode hdecode

/-! ## Documents -/

section Sheets

open Toml

/-- A table in which there are no tables. -/
theorem sheet_of_plain {n : Nat} {es : List (String × Value)} (hes : ∀ e ∈ es, Plain nestingLimit e.2)
    (hkeys : (es.map (·.1)).Nodup) : Sheet (n + 1) es := by
  have h : Sheet (n + 1) (es ++ tableEntries []) := .mk hes (by simp) (by simpa using hkeys)
  rwa [tableEntries, List.map_nil, List.append_nil] at h

theorem plain_ofTexts {n : Nat} (ts : List String) : Plain (n + 1) (.ofTexts ts) := by
  refine .list fun v hv => ?_
  obtain ⟨t, _, rfl⟩ := List.mem_map.1 hv
  exact .text n t

/-- A map of texts. -/
theorem sheet_texts {n : Nat} {es : List (String × String)} (hkeys : (es.map (·.1)).Nodup) :
    Sheet (n + 1) (es.map fun e => (e.1, .text e.2)) := by
  refine sheet_of_plain (fun e he => ?_) (by rwa [List.map_map])
  obtain ⟨f, _, rfl⟩ := List.mem_map.1 he
  exact .text _ f.2

theorem sheet_agent {n : Nat} (a : CatalogAgent) :
    Sheet (n + 1) (("address", .text a.address) :: datacenterEntry a.datacenter?) := by
  obtain ⟨address, _ | datacenter⟩ := a
  · exact sheet_of_plain (by simp [datacenterEntry, Plain.text]) (by simp [datacenterEntry])
  · exact sheet_of_plain (by simp [datacenterEntry, Plain.text]) (by simp [datacenterEntry])

theorem plain_port {n : Nat} (p : UInt16) : Plain n (.integer p.toNat) := by
  have hlt := p.toNat_lt
  exact .integer _ (by omega) (by omega)

/-- The table of a policy. -/
def policyTable (port : Value) (p : Policy) : List (String × Value) :=
  [("port", port)] ++ tableEntries [("node_meta", p.nodeMeta.map fun e => (e.1, .text e.2)),
    ("service_meta", p.serviceMeta.map fun e => (e.1, .text e.2))]

theorem sheet_policyTable {n : Nat} {port : Value} {p : Policy} (hport : Plain nestingLimit port)
    (hnode : (p.nodeMeta.map (·.1)).Nodup) (hservice : (p.serviceMeta.map (·.1)).Nodup) :
    Sheet (n + 2) (policyTable port p) := by
  refine .mk (by simpa using hport) (fun t ht => ?_) (by simp)
  simp only [List.mem_cons, List.not_mem_nil, or_false] at ht
  rcases ht with rfl | rfl
  · exact sheet_texts hnode
  · exact sheet_texts hservice

/-- The tables of a configuration, in their order. -/
def tables (d : Config) (port : Value) : List (String × List (String × Value)) :=
  [("_meta", [("schema_version", .text d.metadata.schemaVersion), ("created_at", .text d.metadata.createdAt),
      ("last_modified", .text d.metadata.lastModified)]),
   ("aws", [("region", .text d.region)]),
   ("consul", ("address", .text d.agent.address) :: datacenterEntry d.agent.datacenter?),
   ("sync", [("interval", .text d.polling.interval), ("filters", .ofTexts d.polling.filters),
      ("exclusions", .ofTexts d.polling.exclusions), ("tags", .ofTexts d.polling.tags),
      ("compact_tags", .boolean d.polling.compactTags)]),
   ("registration", policyTable port d.policy)]

/-- Each table of a configuration can stand in a document. -/
theorem sheet_of_mem_tables {port : Value} (hport : Plain nestingLimit port)
    (hnode : (d.policy.nodeMeta.map (·.1)).Nodup) (hservice : (d.policy.serviceMeta.map (·.1)).Nodup) :
    ∀ t ∈ d.tables port, Sheet 79 t.2 := by
  intro t ht
  simp only [tables, List.mem_cons, List.not_mem_nil, or_false] at ht
  rcases ht with rfl | rfl | rfl | rfl | rfl
  · exact sheet_of_plain (by simp [Plain.text]) (by simp)
  · exact sheet_of_plain (by simp [Plain.text]) (by simp)
  · exact sheet_agent d.agent
  · exact sheet_of_plain (by simp [Plain.text, Plain.boolean, plain_ofTexts, nestingLimit]) (by simp)
  · exact sheet_policyTable hport hnode hservice

/-- **The tables of a configuration can stand in a document.** -/
theorem sheet_tables {port : Value} (hport : Plain nestingLimit port)
    (hnode : (d.policy.nodeMeta.map (·.1)).Nodup) (hservice : (d.policy.serviceMeta.map (·.1)).Nodup) :
    Sheet pathLimit (tableEntries (d.tables port)) := by
  have htables := sheet_of_mem_tables hport hnode hservice
  have hsheet : Sheet pathLimit ([] ++ tableEntries (d.tables port)) := .mk (by simp) htables (by simp [tables])
  exact hsheet

end Sheets

/-- **The document of a configuration is read as its normal form**, whenever no key stands twice in its maps. -/
theorem ofDocument_toDocument_of_nodup (now : String) (hnode : (d.policy.nodeMeta.map (·.1)).Nodup)
    (hservice : (d.policy.serviceMeta.map (·.1)).Nodup) : ofDocument now d.toDocument = .ok d.normalized := by
  have hparse := Toml.parse?_print (sheet_tables (plain_port d.policy.port) hnode hservice)
  have hencode : d.encode = .table (Toml.tableEntries (d.tables (.integer d.policy.port.toNat))) := rfl
  rw [ofDocument, toDocument, hencode, hparse, ← hencode]
  simp only [decode_encode]
  rfl

/-- **The document of a configuration is read as that configuration**, in whatever order its maps were written. -/
theorem ofDocument_toDocument (now : String) (hc : c.IsNormal) (hd : d.Arranges c) :
    ofDocument now d.toDocument = .ok c := by
  rw [ofDocument_toDocument_of_nodup now ((hd.nodeMeta.map _).nodup_iff.2 hc.nodeMeta.nodup)
    ((hd.serviceMeta.map _).nodup_iff.2 hc.serviceMeta.nodup), hd.normalized_eq hc]

end Config
end GatewayRegistrar
