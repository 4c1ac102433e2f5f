import GatewayRegistrar.Proofs.Config.Coding
import GatewayRegistrar.Proofs.Value.Records

/-!
# Settings that are left out

Each part of a configuration has a table with one key that is required and others that are optional (`Part`). Where an
optional key is missing, its decoder falls back on what the standard configuration says there; so an abridged table, from
which only standard settings are missing and to which other keys may have been added, is decoded as the whole one is
(`decode_of_abridges`). A table that lacks what is required is never decoded (`not_lacks_of_decode`).
-/

namespace GatewayRegistrar

open Toml (tableEntries)

/-! ## Parts and their keys -/

namespace Config

/-- The parts of a configuration. -/
inductive Part where
  | metadata
  | region
  | agent
  | polling
  | policy
deriving DecidableEq, Repr

namespace Part

/-- All parts, in the order of their tables. -/
def all : List Part := [metadata, region, agent, polling, policy]

/-- The key under which the table of a part stands. -/
def name : Part → String
  | metadata => "_meta"
  | region => "aws"
  | agent => "consul"
  | polling => "sync"
  | policy => "registration"

/-- The key that the table of a part must have. -/
def required : Part → String
  | metadata => "schema_version"
  | region => "region"
  | agent => "address"
  | polling => "interval"
  | policy => "port"

/-- The keys that may be missing from the table of a part. -/
def optional : Part → List String
  | metadata => ["created_at", "last_modified"]
  | region => []
  | agent => ["datacenter"]
  | polling => ["filters", "exclusions", "tags", "compact_tags"]
  | policy => ["node_meta", "service_meta"]

/-- All keys that mean something in the table of a part. -/
def keys (p : Part) : List String := p.required :: p.optional

/-- The table of a part of a configuration. -/
def entries (c : Config) : Part → List (String × Value)
  | metadata => [("schema_version", .text c.metadata.schemaVersion), ("created_at", .text c.metadata.createdAt),
      ("last_modified", .text c.metadata.lastModified)]
  | region => [("region", .text c.region)]
  | agent => ("address", .text c.agent.address) :: Config.datacenterEntry c.agent.datacenter?
  | polling => [("interval", .text c.polling.interval), ("filters", .ofTexts c.polling.filters),
      ("exclusions", .ofTexts c.polling.exclusions), ("tags", .ofTexts c.polling.tags),
      ("compact_tags", .boolean c.polling.compactTags)]
  | policy => [("port", .integer c.policy.port.toNat), ("node_meta", .ofTextTable c.policy.nodeMeta),
      ("service_meta", .ofTextTable c.policy.serviceMeta)]

/-- What the table of a part has to be. -/
def check (now : String) : Part → Decoder Unit
  | metadata => (Config.decodeMetadata now).check
  | region => Config.decodeRegion.check
  | agent => Config.decodeAgent.check
  | polling => Config.decodePolling.check
  | policy => Config.decodePolicy.check

variable {c : Config} {p : Part} {k : String}

theorem mem_all (p : Part) : p ∈ all := by
  cases p <;> decide

theorem encode_eq (c : Config) : c.encode = .table (tableEntries (all.map fun p => (p.name, p.entries c))) := rfl

theorem sections_eq (now : String) : Config.sections now = all.map fun p => (p.name, p.check now) := rfl

theorem nodup_names : (all.map name).Nodup := by decide

theorem name_injective : Function.Injective name := by
  intro p q
  cases p <;> cases q <;> decide

theorem nodup_keys (p : Part) : p.keys.Nodup := by
  cases p <;> decide

theorem required_notMem_optional (p : Part) : p.required ∉ p.optional := (List.nodup_cons.1 p.nodup_keys).1

/-- The table of a part has no other keys, and each at most once. -/
theorem keys_entries_sublist (c : Config) (p : Part) : ((p.entries c).map (·.1)).Sublist p.keys := by
  cases p with
  | agent =>
    rw [entries]
    cases c.agent.datacenter? <;> simp [Config.datacenterEntry, keys, required, optional]
  | _ => exact .refl _

/-- A key that is not there though all settings are given is optional, and not there in the standard configuration. -/
theorem entryOf?_eq_none (hk : k ∈ p.keys) (h : entryOf? k (p.entries c) = none) (now : String) :
    k ∈ p.optional ∧ entryOf? k (p.entries (.standard now)) = none := by
  rw [entryOf?_eq_none_iff] at h
  cases p with
  | agent =>
    simp only [keys, required, optional, List.mem_cons, List.not_mem_nil, or_false] at hk
    rcases hk with rfl | rfl
    · exact absurd List.mem_cons_self h
    · exact ⟨by decide, rfl⟩
  | _ => exact absurd hk h

end Part
end Config

/-! ## Abridged tables -/

/-- The same value, save that the entries of a map of texts may come in another order. -/
inductive Value.Arranges : Value → Value → Prop
  | refl (v : Value) : Arranges v v
  | texts {es ds : List (String × String)} :
      es.Perm ds → (ds.map (·.1)).Nodup → Arranges (.ofTextTable es) (.ofTextTable ds)

/-- Among the entries is the table of a part of the configuration, perhaps without some optional settings that are the
standard ones, and perhaps with other keys. -/
structure Config.Part.Abridges (now : String) (c : Config) (p : Config.Part) (es : List (String × Value)) : Prop where
  once : Once p.keys es
  kept : ∀ k ∈ p.keys, ∀ v, entryOf? k es = some v → ∃ w, entryOf? k (p.entries c) = some w ∧ v.Arranges w
  omitted : ∀ k ∈ p.keys, entryOf? k es = none →
    k ∈ p.optional ∧ entryOf? k (p.entries c) = entryOf? k (p.entries (.standard now))

/-- The entries are the tables of the configuration, perhaps abridged, perhaps without the one of the policy if that is
the standard one, and perhaps with other keys. -/
structure Config.Abridges (now : String) (c : Config) (es : List (String × Value)) : Prop where
  once : Once (Part.all.map Part.name) es
  kept : ∀ (p : Part) v, entryOf? p.name es = some v → ∃ ps, v = .table ps ∧ p.Abridges now c ps
  omitted : ∀ p : Part, entryOf? p.name es = none → p = .policy ∧ c.policy = .standard

/-- The decoder does not see in what order the entries of a map come. -/
def Decoder.IgnoresOrder {α : Type} (item : Decoder α) : Prop :=
  ∀ v w a, Value.Arranges v w → item w = .ok a → item v = .ok a

namespace Decoder

theorem ignoresOrder_of_not_table {α : Type} {item : Decoder α} (h : ∀ es a, item (.table es) ≠ .ok a) :
    item.IgnoresOrder := by
  rintro v w a (_ | _) hw
  · exact hw
  · exact absurd hw (h _ a)

theorem ignoresOrder_text : text.IgnoresOrder := ignoresOrder_of_not_table fun _ _ => nofun

theorem ignoresOrder_optionalText : optionalText.IgnoresOrder := ignoresOrder_of_not_table fun _ _ => nofun

theorem ignoresOrder_boolean : boolean.IgnoresOrder := ignoresOrder_of_not_table fun _ _ => nofun

theorem ignoresOrder_port : port.IgnoresOrder := ignoresOrder_of_not_table fun _ _ => nofun

theorem ignoresOrder_texts : Config.texts.IgnoresOrder := ignoresOrder_of_not_table fun _ _ => nofun

theorem ignoresOrder_textMap : Policy.textMap.IgnoresOrder := by
  rintro v w a (_ | ⟨hperm, hnodup⟩) hw
  · exact hw
  · rw [textMap_ofTextTable] at hw ⊢
    rw [(singleValued_of_nodup hnodup).sortEntries_perm hperm]
    exact hw

end Decoder

/-! ## Parts -/

namespace Config
namespace Part.Abridges

variable {now : String} {c : Config} {p : Part} {ps : List (String × Value)} {α : Type} {item : Decoder α}

/-- What is required is there. -/
theorem requiredField_eq (h : p.Abridges now c ps) (hitem : item.IgnoresOrder) {a : α}
    (hfull : requiredField p.required item (p.entries c) = .ok a) : requiredField p.required item ps = .ok a := by
  cases hv : entryOf? p.required ps with
  | none => exact absurd (h.omitted _ List.mem_cons_self hv).1 p.required_notMem_optional
  | some v =>
    obtain ⟨w, hw, hvw⟩ := h.kept _ List.mem_cons_self v hv
    rw [requiredField, hw] at hfull
    exact requiredField_ok hv (hitem v w a hvw hfull)

/-- What is optional is there, or else the standard configuration has what the decoder falls back on. -/
theorem optionalField_eq (h : p.Abridges now c ps) (hitem : item.IgnoresOrder) {k : String} (hk : k ∈ p.optional)
    {fallback a : α} (hfull : optionalField k item fallback (p.entries c) = .ok a)
    (hstandard : optionalField k item fallback (p.entries (.standard now)) = .ok fallback) :
    optionalField k item fallback ps = .ok a := by
  have hmem : k ∈ p.keys := List.mem_cons_of_mem _ hk
  unfold optionalField at *
  cases hv : entryOf? k ps with
  | none =>
    rw [(h.omitted k hmem hv).2, hstandard] at hfull
    exact hfull
  | some v =>
    obtain ⟨w, hw, hvw⟩ := h.kept k hmem v hv
    rw [hw] at hfull
    exact hitem v w a hvw hfull

/-- The table is read as a record where each of its fields is read. -/
theorem recordEntries_eq (h : p.Abridges now c ps) (record : String) {fields : FieldChecks}
    (hfields : fields.map (·.1) = p.keys) (hread : FieldsRead ps fields) :
    recordEntries record 1 false fields (.table ps) = .ok ps :=
  (recordEntries_table_eq_ok_iff (hfields ▸ p.nodup_keys)).2 ⟨rfl, hfields ▸ h.once, hread.checked⟩

theorem decodeMetadata_eq (h : metadata.Abridges now c ps) : Config.decodeMetadata now (.table ps) = .ok c.metadata := by
  have hversion : requiredField "schema_version" .text ps = .ok c.metadata.schemaVersion :=
    h.requiredField_eq Decoder.ignoresOrder_text rfl
  have hcreated : optionalField "created_at" .text now ps = .ok c.metadata.createdAt :=
    h.optionalField_eq Decoder.ignoresOrder_text (by decide) rfl rfl
  have hmodified : optionalField "last_modified" .text now ps = .ok c.metadata.lastModified :=
    h.optionalField_eq Decoder.ignoresOrder_text (by decide) rfl rfl
  have hrecord := h.recordEntries_eq "MetaConfig" rfl (.required hversion (.optional hcreated (.optional hmodified .nil)))
  simp only [Config.decodeMetadata, hrecord, hversion, hcreated, hmodified, bind, Except.bind, pure, Except.pure]

theorem decodeRegion_eq (h : region.Abridges now c ps) : Config.decodeRegion (.table ps) = .ok c.region := by
  have hregion : requiredField "region" .text ps = .ok c.region := h.requiredField_eq Decoder.ignoresOrder_text rfl
  have hrecord := h.recordEntries_eq "AwsConfig" rfl (.required hregion .nil)
  simp only [Config.decodeRegion, hrecord, hregion, bind, Except.bind]

theorem decodeAgent_eq (h : agent.Abridges now c ps) : Config.decodeAgent (.table ps) = .ok c.agent := by
  have haddress : requiredField "address" .text ps = .ok c.agent.address :=
    h.requiredField_eq Decoder.ignoresOrder_text rfl
  have hdatacenter : optionalField "datacenter" .optionalText none ps = .ok c.agent.datacenter? := by
    refine h.optionalField_eq Decoder.ignoresOrder_optionalText (by decide) ?_ rfl
    rw [entries]
    cases c.agent.datacenter? <;> rfl
  have hrecord := h.recordEntries_eq "ConsulConfig" rfl (.required haddress (.optional hdatacenter .nil))
  simp only [Config.decodeAgent, hrecord, haddress, hdatacenter, bind, Except.bind, pure, Except.pure]

theorem decodePolling_eq (h : polling.Abridges now c ps) : Config.decodePolling (.table ps) = .ok c.polling := by
  have hinterval : requiredField "interval" .text ps = .ok c.polling.interval :=
    h.requiredField_eq Decoder.ignoresOrder_text rfl
  have hfilters : optionalField "filters" Config.texts [] ps = .ok c.polling.filters :=
    h.optionalField_eq Decoder.ignoresOrder_texts (by decide) (listOf_ofTexts _) rfl
  have hexclusions : optionalField "exclusions" Config.texts [] ps = .ok c.polling.exclusions :=
    h.optionalField_eq Decoder.ignoresOrder_texts (by decide) (listOf_ofTexts _) rfl
  have htags : optionalField "tags" Config.texts [] ps = .ok c.polling.tags :=
    h.optionalField_eq Decoder.ignoresOrder_texts (by decide) (listOf_ofTexts _) rfl
  have hcompact : optionalField "compact_tags" .boolean true ps = .ok c.polling.compactTags :=
    h.optionalField_eq Decoder.ignoresOrder_boolean (by decide) rfl rfl
  have hrecord := h.recordEntries_eq "SyncConfig" rfl
    (.required hinterval (.optional hfilters (.optional hexclusions (.optional htags (.optional hcompact .nil)))))
  simp only [Config.decodePolling, hrecord, hinterval, hfilters, hexclusions, htags, hcompact, bind, Except.bind, pure,
    Except.pure]

theorem decodePolicy_eq (h : policy.Abridges now c ps) (hc : c.IsNormal) :
    Config.decodePolicy (.table ps) = .ok c.policy := by
  have htextMap : ∀ es, Ascending es → Policy.textMap (.ofTextTable es) = .ok es := by
    intro es hes
    rw [textMap_ofTextTable, sortEntries_of_perm hes (.refl _)]
  have hstandard := htextMap Policy.defaultNodeMeta (Config.isNormal_standard now).nodeMeta
  have hport : requiredField "port" .port ps = .ok c.policy.port :=
    h.requiredField_eq Decoder.ignoresOrder_port (port_toNat c.policy.port)
  have hnode : optionalField "node_meta" Policy.textMap Policy.defaultNodeMeta ps = .ok c.policy.nodeMeta :=
    h.optionalField_eq Decoder.ignoresOrder_textMap (by decide) (htextMap _ hc.nodeMeta) hstandard
  have hservice : optionalField "service_meta" Policy.textMap [] ps = .ok c.policy.serviceMeta :=
    h.optionalField_eq Decoder.ignoresOrder_textMap (by decide) (htextMap _ hc.serviceMeta) rfl
  have hrecord := h.recordEntries_eq "RegistrationConfig" rfl (.required hport (.optional hnode (.optional hservice .nil)))
  simp only [Config.decodePolicy, hrecord, hport, hnode, hservice, bind, Except.bind, pure, Except.pure]

end Part.Abridges

/-! ## Configurations -/

variable {now : String} {c : Config} {es : List (String × Value)}

namespace Abridges

/-- The table of a part that must be there is there, and is decoded. -/
theorem requiredField_eq (h : c.Abridges now es) {p : Part} (hp : p ≠ .policy) {α : Type} {item : Decoder α} {a : α}
    (hitem : ∀ {ps}, p.Abridges now c ps → item (.table ps) = .ok a) : requiredField p.name item es = .ok a := by
  cases hv : entryOf? p.name es with
  | none => exact absurd (h.omitted p hv).1 hp
  | some v =>
    obtain ⟨ps, rfl, hps⟩ := h.kept p v hv
    exact requiredField_ok hv (hitem hps)

end Abridges

/-- **Settings that are left out mean the standard ones.** -/
theorem decode_of_abridges (h : c.Abridges now es) (hc : c.IsNormal) : decode now (.table es) = .ok c := by
  have hmetadata : requiredField "_meta" (decodeMetadata now) es = .ok c.metadata :=
    h.requiredField_eq (by decide) Part.Abridges.decodeMetadata_eq
  have hregion : requiredField "aws" decodeRegion es = .ok c.region :=
    h.requiredField_eq (by decide) Part.Abridges.decodeRegion_eq
  have hagent : requiredField "consul" decodeAgent es = .ok c.agent :=
    h.requiredField_eq (by decide) Part.Abridges.decodeAgent_eq
  have hpolling : requiredField "sync" decodePolling es = .ok c.polling :=
    h.requiredField_eq (by decide) Part.Abridges.decodePolling_eq
  have hpolicy : optionalField "registration" decodePolicy .standard es = .ok c.policy := by
    unfold optionalField
    cases hv : entryOf? "registration" es with
    | none => exact congrArg Except.ok (h.omitted .policy hv).2.symm
    | some v =>
      obtain ⟨ps, rfl, hps⟩ := h.kept .policy v hv
      exact hps.decodePolicy_eq hc
  have hread : FieldsRead es (sections now) :=
    .required hmetadata <| .required hregion <| .required hagent <| .required hpolling <| .optional hpolicy .nil
  have hnames : (sections now).map (·.1) = Part.all.map Part.name := rfl
  have hrecord : recordEntries "Config" 4 false (sections now) (.table es) = .ok es :=
    (recordEntries_table_eq_ok_iff (hnames ▸ Part.nodup_names)).2 ⟨rfl, hnames ▸ h.once, hread.checked⟩
  simp only [decode, hrecord, hmetadata, hregion, hagent, hpolling, hpolicy, bind, Except.bind, pure, Except.pure]

/-! ## What is required -/

/-- Something that is required is missing: the table of a part, or the key that a table must have. -/
def Lacks (es : List (String × Value)) : Prop :=
  (∃ p, p ≠ .policy ∧ entryOf? (Part.name p) es = none) ∨
    ∃ p ps, entryOf? (Part.name p) es = some (.table ps) ∧ entryOf? p.required ps = none

theorem entryOf?_of_requiredField {α : Type} {key : String} {item : Decoder α} {a : α}
    (h : requiredField key item es = .ok a) : entryOf? key es ≠ none := by
  obtain ⟨v, hv, _⟩ := requiredField_eq_ok_iff.1 h
  rw [hv]
  exact Option.some_ne_none v

/-- The table of a part is accepted only if it has the required key. -/
theorem entryOf?_of_check {p : Part} (h : p.check now (.table es) = .ok ()) : entryOf? p.required es ≠ none := by
  have hentries : ∀ {record : String} {fields : FieldChecks} {entries : List (String × Value)},
      recordEntries record 1 false fields (.table es) = .ok entries → entries = es := by
    intro record fields entries hrecord
    obtain ⟨_, _, hsame⟩ := exists_ok_of_bind hrecord
    exact (Except.ok.inj hsame).symm
  -- the required field is read first, and then the others
  have hfirst : ∀ {α β : Type} {record : String} {fields : FieldChecks} {item : Decoder α}
      {next : List (String × Value) → α → Except DecodeFault β} {b : β},
      (recordEntries record 1 false fields (.table es) >>= fun entries =>
        requiredField p.required item entries >>= next entries) = .ok b → entryOf? p.required es ≠ none := by
    intro α β record fields item next b hdecode
    obtain ⟨entries, hrecord, hrest⟩ := exists_ok_of_bind hdecode
    obtain ⟨_, hrequired, _⟩ := exists_ok_of_bind hrest
    rw [hentries hrecord] at hrequired
    exact entryOf?_of_requiredField hrequired
  cases p with
  | region =>
    obtain ⟨_, hdecode⟩ := Decoder.check_eq_ok_iff.1 h
    obtain ⟨entries, hrecord, hrequired⟩ := exists_ok_of_bind hdecode
    rw [hentries hrecord] at hrequired
    exact entryOf?_of_requiredField hrequired
  | _ =>
    obtain ⟨_, hdecode⟩ := Decoder.check_eq_ok_iff.1 h
    exact hfirst hdecode

/-- **A table that is decoded lacks nothing.** -/
theorem not_lacks_of_decode (h : decode now (.table es) = .ok c) : ¬Lacks es := by
  obtain ⟨entries, hrecord, hfields⟩ := exists_ok_of_bind h
  have hnames : (sections now).map (·.1) = Part.all.map Part.name := rfl
  obtain ⟨hentries, _, hchecked⟩ := (recordEntries_table_eq_ok_iff (hnames ▸ Part.nodup_names)).1 hrecord
  rw [hentries] at hfields
  rintro (⟨p, hp, hmissing⟩ | ⟨p, ps, hps, hmissing⟩)
  · obtain ⟨_, hmetadata, hfields⟩ := exists_ok_of_bind hfields
    obtain ⟨_, hregion, hfields⟩ := exists_ok_of_bind hfields
    obtain ⟨_, hagent, hfields⟩ := exists_ok_of_bind hfields
    obtain ⟨_, hpolling, _⟩ := exists_ok_of_bind hfields
    cases p with
    | metadata => exact entryOf?_of_requiredField hmetadata hmissing
    | region => exact entryOf?_of_requiredField hregion hmissing
    | agent => exact entryOf?_of_requiredField hagent hmissing
    | polling => exact entryOf?_of_requiredField hpolling hmissing
    | policy => exact hp rfl
  · have hmem : (p.name, p.check now) ∈ sections now := by
      rw [Part.sections_eq]
      exact List.mem_map_of_mem p.mem_all
    exact entryOf?_of_check (hchecked _ hmem _ hps) hmissing

end Config

end GatewayRegistrar
