import GatewayRegistrar.Proofs.Cycle.TagModes
import GatewayRegistrar.Proofs.Registration.Coding
import GatewayRegistrar.Proofs.Service.Identity
import GatewayRegistrar.Registration.Consul

/-!
# What the catalog is sent

The body of a request has each field of its registration in its place. No field is lost: bodies with one text are those
of one registration (`registerBody_injective`, `plain_registerBody`), and for registrations in normal form the order of
the entries in the tables of the bodies does not matter either (`eq_of_sorted_registerBody_eq`). The body of a planned
registration is that of the service in its resource, under its name in the catalog (`registerBody_compose`).
-/

namespace GatewayRegistrar
namespace Consul

open Json

variable {p q : Registration}

/-! ## Nothing is lost -/

theorem plain_registerBody {n : Nat} (p : Registration) : Plain (n + 3) (registerBody p) := by
  have hcheck : Plain (n + 1) (checkBody p.healthCheck) := .table (by simp [Plain.text])
  have hservice : Plain (n + 2) (.table [("Service", .text p.serviceName), ("Tags", .ofTexts p.tags),
      ("Port", .integer p.port.toNat), ("Meta", .ofTextTable p.serviceMetadata)]) :=
    .table (by simp [Plain.text, plain_ofTexts, plain_port, plain_ofTextTable])
  have hchecks : Plain (n + 2) (.list [checkBody p.healthCheck]) := .list (by simpa using hcheck)
  exact .table (by simp [Plain.text, Plain.boolean, plain_ofTextTable, hservice, hchecks])

theorem checkBody_injective {c d : HealthCheck} (h : checkBody c = checkBody d) : c = d := by
  obtain ⟨id, name, node, serviceName, notes, ⟨⟩⟩ := c
  obtain ⟨id', name', node', serviceName', notes', ⟨⟩⟩ := d
  simp only [checkBody, Value.table.injEq, List.cons.injEq, Prod.mk.injEq, Value.text.injEq, true_and, and_true] at h
  obtain ⟨rfl, rfl, rfl, rfl, rfl⟩ := h
  rfl

/-- Registrations are equal when the parts of their bodies are. -/
theorem eq_of_parts (hnode : p.node = q.node) (haddress : p.address = q.address)
    (hnodeMeta : Value.ofTextTable p.nodeMetadata = .ofTextTable q.nodeMetadata)
    (hservice : p.serviceName = q.serviceName) (htags : Value.ofTexts p.tags = .ofTexts q.tags)
    (hport : (p.port.toNat : Int) = q.port.toNat)
    (hserviceMeta : Value.ofTextTable p.serviceMetadata = .ofTextTable q.serviceMetadata)
    (hcheck : checkBody p.healthCheck = checkBody q.healthCheck) (hskip : p.skipNodeUpdate = q.skipNodeUpdate) :
    p = q := by
  have hnodeMetadata := Value.ofTextTable_injective hnodeMeta
  have hserviceMetadata := Value.ofTextTable_injective hserviceMeta
  have hports : p.port = q.port := UInt16.toNat_inj.1 (Int.ofNat.inj hport)
  have htexts := Value.ofTexts_injective htags
  have hchecks := checkBody_injective hcheck
  cases p
  cases q
  simp_all only

/-- **Registrations with one body are equal.** -/
theorem registerBody_injective (h : registerBody p = registerBody q) : p = q := by
  simp only [registerBody, Value.table.injEq, List.cons.injEq, Prod.mk.injEq, Value.text.injEq, Value.integer.injEq,
    Value.boolean.injEq, Value.list.injEq, true_and, and_true] at h
  obtain ⟨hnode, haddress, hnodeMeta, ⟨hservice, htags, hport, hserviceMeta⟩, hcheck, hskip⟩ := h
  exact eq_of_parts hnode haddress hnodeMeta hservice htags hport hserviceMeta hcheck hskip

/-! ## The order of entries -/

/-- The body of a registration in normal form, with all its tables in order. -/
theorem sorted_registerBody (hp : p.IsNormal) :
    (registerBody p).sorted =
      .table [("Address", .text p.address), ("Checks", .list [checkBody p.healthCheck]), ("Node", .text p.node),
        ("NodeMeta", .ofTextTable p.nodeMetadata),
        ("Service", .table [("Meta", .ofTextTable p.serviceMetadata), ("Port", .integer p.port.toNat),
          ("Service", .text p.serviceName), ("Tags", .ofTexts p.tags)]),
        ("SkipNodeUpdate", .boolean p.skipNodeUpdate)] := by
  have hshape : (registerBody p).sorted =
      .table [("Address", .text p.address), ("Checks", .list [checkBody p.healthCheck]), ("Node", .text p.node),
        ("NodeMeta", (Value.ofTextTable p.nodeMetadata).sorted),
        ("Service", .table [("Meta", (Value.ofTextTable p.serviceMetadata).sorted), ("Port", .integer p.port.toNat),
          ("Service", .text p.serviceName), ("Tags", (Value.ofTexts p.tags).sorted)]),
        ("SkipNodeUpdate", .boolean p.skipNodeUpdate)] := rfl
  rw [hshape, Value.sorted_ofTextTable hp.nodeMetadata, Value.sorted_ofTextTable hp.serviceMetadata,
    Value.sorted_ofTexts]

/-- **Registrations in normal form with one body are equal**, whatever the order of the entries in the tables. -/
theorem eq_of_sorted_registerBody_eq (hp : p.IsNormal) (hq : q.IsNormal)
    (h : (registerBody p).sorted = (registerBody q).sorted) : p = q := by
  simp only [sorted_registerBody hp, sorted_registerBody hq, Value.table.injEq, List.cons.injEq, Prod.mk.injEq,
    Value.text.injEq, Value.integer.injEq, Value.boolean.injEq, Value.list.injEq, true_and, and_true] at h
  obtain ⟨haddress, hcheck, hnode, hnodeMeta, ⟨hserviceMeta, hport, hservice, htags⟩, hskip⟩ := h
  exact eq_of_parts hnode haddress hnodeMeta hservice htags hport hserviceMeta hcheck hskip

end Consul

namespace Settings

open Consul

variable (s : Settings)

/-! ## Planned registrations -/

/-- The body for a service, written out. -/
theorem registerBody_compose {r : Resource} {i : Identity} (h : Identity.ofResource r s.region = .ok i)
    (tags : List String) :
    registerBody (.compose i tags s.policy) =
      .table [("Node", .text i.canonicalName),
        ("Address", .text (i.id ++ ".execute-api." ++ s.region ++ ".amazonaws.com")),
        ("NodeMeta", .ofTextTable s.policy.nodeMeta),
        ("Service", .table [("Service", .text i.canonicalName), ("Tags", .ofTexts tags),
          ("Port", .integer s.policy.port.toNat),
          ("Meta", .ofTextTable
            (sortEntries (i.sanitizedTags ++ Registration.providerEntry :: s.policy.serviceMeta)))]),
        ("Checks", .list [.table [("CheckID", .text ("service:" ++ i.canonicalName)), ("Name", .text i.canonicalName),
          ("Node", .text i.canonicalName), ("Notes", .text ("created by " ++ registrarName)),
          ("ServiceName", .text i.canonicalName), ("Status", .text "passing")]]),
        ("SkipNodeUpdate", .boolean true)] := by
  rw [← Identity.region_of_ofResource h]
  rfl

/-- The tags of a service stand in the order of the templates that give them. -/
theorem sublist_of_render {m : TagMode} {room : Nat} {templates tags : List String} {i : Identity}
    (h : m.render room templates i = some tags) :
    ∃ filled, List.Forall₂ (FilledIn room i) templates filled ∧ tags.Sublist filled := by
  cases m with
  | strict => exact ⟨tags, renderTags_eq_some_iff.1 h, .refl _⟩
  | compact =>
    obtain ⟨filled, hfilled, rfl⟩ := Option.map_eq_some_iff.1 h
    exact ⟨filled, renderTags_eq_some_iff.1 hfilled, List.filter_sublist⟩

/-- **What the catalog is sent.** Each registration of a plan is that of a resource that is kept, and its body shows the
name that the rule for names gives the resource, which is never empty, wherever a name stands: as the node, the service,
the node, name and service of the one check, which passes, and behind `service:` in the identifier of the check. The
address is made of the identifier of the same resource and the region, the tags are in the order of their templates, and
the node is never updated. Nothing about any registration is lost: bodies with one text are those of one registration,
and so are bodies of registrations in normal form that differ at most in the order of the entries of their tables. -/
theorem plan_sends_named_services :
    (∀ (room : Nat) (rs : List Resource) (p : Plan), s.plan room rs = some p →
      (s.registered rs).Sublist rs ∧
      List.Forall₂ (fun r q => s.registration? room r = some q ∧ ∃ i name tags filled,
          Identity.ofResource r s.region = .ok i ∧ i.IsNamed name ∧ name ≠ "" ∧ r.id? = some i.id ∧
          s.tagMode.render room s.templates i = some tags ∧
          List.Forall₂ (FilledIn room i) s.templates filled ∧ tags.Sublist filled ∧
          registerBody q =
            .table [("Node", .text name),
              ("Address", .text (i.id ++ ".execute-api." ++ s.region ++ ".amazonaws.com")),
              ("NodeMeta", .ofTextTable s.policy.nodeMeta),
              ("Service", .table [("Service", .text name), ("Tags", .ofTexts tags),
                ("Port", .integer s.policy.port.toNat),
                ("Meta", .ofTextTable
                  (sortEntries (i.sanitizedTags ++ Registration.providerEntry :: s.policy.serviceMeta)))]),
              ("Checks", .list [.table [("CheckID", .text ("service:" ++ name)), ("Name", .text name),
                ("Node", .text name), ("Notes", .text ("created by " ++ registrarName)), ("ServiceName", .text name),
                ("Status", .text "passing")]]),
              ("SkipNodeUpdate", .boolean true)])
        (s.registered rs) p.registrations) ∧
    (∀ p q : Registration, Json.compact (registerBody p) = Json.compact (registerBody q) → p = q) ∧
    ∀ p q : Registration, p.IsNormal → q.IsNormal → (registerBody p).sorted = (registerBody q).sorted → p = q := by
  refine ⟨fun room rs p hp => ⟨List.filter_sublist, ?_⟩, fun p q h => ?_, fun p q => eq_of_sorted_registerBody_eq⟩
  · refine (forall₂_registered hp).imp fun r q h => ⟨h, ?_⟩
    obtain ⟨i, hkept, hq⟩ := Option.bind_eq_some_iff.1 h
    obtain ⟨tags, htags, rfl⟩ := Option.map_eq_some_iff.1 hq
    obtain ⟨filled, hfilled, hsublist⟩ := sublist_of_render htags
    have hidentity := (s.kept?_fate.1 hkept).1
    obtain ⟨_, hid, _, _, _, hname, _⟩ := Identity.ofResource_eq_ok_iff.1 hidentity
    exact ⟨i, i.canonicalName, tags, filled, hidentity, Identity.isNamed_iff.2 rfl, by simpa using hname, hid, htags,
      hfilled, hsublist, s.registerBody_compose hidentity tags⟩
  · exact registerBody_injective (Json.compact_injective (plain_registerBody p) (plain_registerBody q) h)

/-- What is sent for a gateway with a stage; no other registration has this body. -/
theorem orders_sent :
    let s : Settings := { (Config.standard "now").settings with templates := ["{{Name}}", "{{Tags.STAGE}}"] }
    let i : Identity :=
      { id := "a1", rawName := "dev-orders", region := s.region, tags := [("STAGE", "dev")], stageNames := [] }
    let p : Registration :=
      { node := "orders", nodeMetadata := Policy.defaultNodeMeta, address := "a1.execute-api.us-west-2.amazonaws.com"
        serviceName := "orders", port := 443, tags := ["orders", "dev"]
        serviceMetadata := [("STAGE", "dev"), ("external-source", "aws")]
        healthCheck :=
          { id := "service:orders", name := "orders", node := "orders", serviceName := "orders"
            notes := "created by consul-api-gateway-sync", status := .passing }
        skipNodeUpdate := true }
    Identity.ofResource ((Resource.named "a1" "dev-orders").withTag "STAGE" "dev") s.region = .ok i ∧ p.IsNormal ∧
      ∃ tags, s.tagMode.render 0 s.templates i = some tags ∧ (Registration.compose i tags s.policy).IsNormal ∧
        Json.compact (registerBody (.compose i tags s.policy)) = Json.compact (registerBody p) ∧
        .compose i tags s.policy = p := by
  intro s i p
  have hnode : Ascending Policy.defaultNodeMeta := by
    unfold Ascending
    decide
  have hp : p.IsNormal := ⟨hnode, by unfold Ascending; decide⟩
  have htags : s.tagMode.render 0 s.templates i = some ["orders", "dev"] := by decide +kernel
  have htext : Json.compact (registerBody (.compose i ["orders", "dev"] s.policy)) = Json.compact (registerBody p) :=
    congrArg String.ofList (by decide +kernel)
  exact ⟨by decide +kernel, hp, _, htags, Registration.isNormal_compose i _ hnode, htext,
    s.plan_sends_named_services.2.1 _ _ htext⟩

end Settings
end GatewayRegistrar
