import GatewayRegistrar.Proofs.Json.Values
import GatewayRegistrar.Proofs.Value.Decoding

/-!
# Registrations and their tables

The maps of a registration are in normal form (`Registration.IsNormal`), and those of every registration that is
composed under a policy in normal form are (`isNormal_compose`). What is encoded of a registration is decoded with its
maps in normal form (`decode_encode`), so that a registration in normal form comes back as it was. Its table is made of
texts, numbers and truth values alone (`plain_encode`).
-/

namespace GatewayRegistrar

open Json

theorem plain_port {n : Nat} (p : UInt16) : Plain n (.integer p.toNat) := by
  have hlt := p.toNat_lt
  exact .integer n ⟨by omega, by omega⟩

/-! ## Checks -/

namespace HealthCheck

theorem decode_encode (c : HealthCheck) : decode c.encode = .ok c := rfl

theorem plain_encode {n : Nat} (c : HealthCheck) : Plain (n + 1) c.encode :=
  .table (by simp [Plain.text])

end HealthCheck

/-! ## Registrations -/

namespace Registration

variable {r : Registration}

/-- The maps of the registration are in normal form. -/
structure IsNormal (r : Registration) : Prop where
  nodeMetadata : Ascending r.nodeMetadata
  serviceMetadata : Ascending r.serviceMetadata

/-- The registration with its maps in normal form. -/
def normalized (r : Registration) : Registration :=
  { r with nodeMetadata := sortEntries r.nodeMetadata, serviceMetadata := sortEntries r.serviceMetadata }

theorem IsNormal.normalized_eq (hr : r.IsNormal) : r.normalized = r := by
  rw [normalized, sortEntries_of_perm hr.nodeMetadata (.refl _), sortEntries_of_perm hr.serviceMetadata (.refl _)]

/-- What is composed under a policy in normal form is in normal form. -/
theorem isNormal_compose (i : Identity) (tags : List String) {policy : Policy} (h : Ascending policy.nodeMeta) :
    (compose i tags policy).IsNormal :=
  ⟨h, ascending_sortEntries _⟩

/-- A registration is decoded from entries that have its fields. -/
theorem decode_eq_ok {v : Value} {entries : List (String × Value)}
    (hentries : recordEntries "RegistrationRecord" 9 true fields v = .ok entries)
    (hnode : requiredField "node" .text entries = .ok r.node)
    (hnodeMetadata : requiredField "node_metadata" Policy.textMap entries = .ok r.nodeMetadata)
    (haddress : requiredField "address" .text entries = .ok r.address)
    (hserviceName : requiredField "service_name" .text entries = .ok r.serviceName)
    (hport : requiredField "port" .port entries = .ok r.port)
    (htags : requiredField "tags" (.listOf .text) entries = .ok r.tags)
    (hserviceMetadata : requiredField "service_metadata" Policy.textMap entries = .ok r.serviceMetadata)
    (hcheck : requiredField "health_check" HealthCheck.decode entries = .ok r.healthCheck)
    (hskip : requiredField "skip_node_update" .boolean entries = .ok r.skipNodeUpdate) : decode v = .ok r := by
  simp only [decode, hentries, hnode, hnodeMetadata, haddress, hserviceName, hport, htags, hserviceMetadata, hcheck,
    hskip, bind, Except.bind, pure, Except.pure]

/-- **What is encoded of a registration is decoded to its normal form.** -/
theorem decode_encode (r : Registration) : decode r.encode = .ok r.normalized := by
  have hentries : recordEntries "RegistrationRecord" 9 true fields r.encode = .ok _ :=
    recordEntries_table (by decide) <|
      .cons rfl <| .cons (textMap_ofTextTable _) <| .cons rfl <| .cons rfl <| .cons (port_toNat _) <|
      .cons (listOf_ofTexts _) <| .cons (textMap_ofTextTable _) <| .cons (HealthCheck.decode_encode _) <|
      .cons rfl .nil
  exact decode_eq_ok hentries (requiredField_ok rfl rfl)
    (requiredField_ok rfl (textMap_ofTextTable _)) (requiredField_ok rfl rfl) (requiredField_ok rfl rfl)
    (requiredField_ok rfl (port_toNat _)) (requiredField_ok rfl (listOf_ofTexts _))
    (requiredField_ok rfl (textMap_ofTextTable _)) (requiredField_ok rfl (HealthCheck.decode_encode _))
    (requiredField_ok rfl rfl)

theorem plain_encode {n : Nat} (r : Registration) : Plain (n + 2) r.encode :=
  .table (by simp [Plain.text, Plain.boolean, plain_ofTexts, plain_ofTextTable, plain_port,
    HealthCheck.plain_encode])

end Registration

end GatewayRegistrar
