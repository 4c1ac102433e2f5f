import GatewayRegistrar.Proofs.Cycle.Fate
import GatewayRegistrar.Proofs.Service.Identity
import Mathlib.Data.List.Nodup

/-!
# Nodes of a plan

A registration makes a node with the name of its service, and names do not tell gateways apart: the service tag or the
stage can give two of them one name (`two_gateways_on_one_node`). What tells gateways apart is the address
(`id?_eq_of_address_eq`). So the nodes of a plan are distinct, and each of them has one address, exactly when no two
resources that are kept collide (`names_nodup_iff`, `name_determines_address_iff`).
-/

namespace GatewayRegistrar
namespace Settings

open Identity (isNamed_iff)

variable (s : Settings)

/-! ## Collisions -/

/-- Both resources are kept, and the rule for names gives their services one name. -/
def Collide (a b : Resource) : Prop :=
  ∃ i j name, s.fate a = .kept i ∧ s.fate b = .kept j ∧ i.IsNamed name ∧ j.IsNamed name

theorem collide_iff {a b : Resource} :
    s.Collide a b ↔ ∃ i j, s.fate a = .kept i ∧ s.fate b = .kept j ∧ i.canonicalName = j.canonicalName := by
  simp only [Collide, isNamed_iff]
  constructor
  · rintro ⟨i, j, name, hi, hj, hin, hjn⟩
    exact ⟨i, j, hi, hj, hin.trans hjn.symm⟩
  · rintro ⟨i, j, hi, hj, hij⟩
    exact ⟨i, j, j.canonicalName, hi, hj, hij, rfl⟩

instance (a b : Resource) : Decidable (s.Collide a b) :=
  decidable_of_iff
    (((s.fate a).kept?.any fun i => (s.fate b).kept?.any fun j => i.canonicalName = j.canonicalName) = true) <| by
    rw [collide_iff]
    cases s.fate a <;> cases s.fate b <;> simp [Fate.kept?]

/-! ## Names and addresses of services -/

theorem mem_eligible {rs : List Resource} {i : Identity} : i ∈ s.eligible rs ↔ ∃ r ∈ rs, s.fate r = .kept i := by
  have hkept : ∀ r, (s.fate r).kept? = some i ↔ s.fate r = .kept i := fun r => by
    cases s.fate r <;> simp [Fate.kept?]
  simp only [eligible_eq_kept, List.mem_filterMap, hkept]

/-- The names of the services that are kept are distinct exactly when no two resources collide. -/
theorem names_nodup_iff (rs : List Resource) :
    ((s.eligible rs).map (·.canonicalName)).Nodup ↔ rs.Pairwise fun a b => ¬ s.Collide a b := by
  rw [eligible_eq_kept, List.nodup_iff_pairwise_ne, List.pairwise_map, List.pairwise_filterMap]
  refine List.Pairwise.iff fun a b => ?_
  rw [collide_iff]
  cases s.fate a <;> cases s.fate b <;> simp [Fate.kept?]

/-- The identity of a kept resource is made from it in the region of the settings. -/
theorem ofResource_of_kept {r : Resource} {i : Identity} (h : s.fate r = .kept i) :
    Identity.ofResource r s.region = .ok i :=
  (s.kept?_fate.1 (by rw [h]; rfl)).1

/-- Kept resources with one address have one identifier. -/
theorem id?_eq_of_address_eq {a b : Resource} {i j : Identity} (hi : s.fate a = .kept i) (hj : s.fate b = .kept j)
    (h : i.address = j.address) : a.id? = some i.id ∧ b.id? = some i.id := by
  have ha := s.ofResource_of_kept hi
  have hb := s.ofResource_of_kept hj
  have hregion : i.region = j.region := by
    rw [Identity.region_of_ofResource ha, Identity.region_of_ofResource hb]
  have hid := Identity.id_eq_of_address_eq hregion h
  exact ⟨Identity.id?_of_ofResource ha, by rw [hid]; exact Identity.id?_of_ofResource hb⟩

/-- Where the identifiers are distinct, services of one name have one address exactly when no two resources collide. -/
theorem name_determines_address_iff {rs : List Resource} (hid : (rs.filterMap (·.id?)).Nodup) :
    (∀ i ∈ s.eligible rs, ∀ j ∈ s.eligible rs, i.canonicalName = j.canonicalName → i.address = j.address) ↔
      rs.Pairwise fun a b => ¬ s.Collide a b := by
  constructor
  · intro h
    -- two colliding resources at different places would have one address, and so one identifier
    rw [List.nodup_iff_pairwise_ne, List.pairwise_filterMap] at hid
    refine hid.imp_of_mem fun {a b} ha hb hne hc => ?_
    obtain ⟨i, j, hi, hj, hname⟩ := s.collide_iff.1 hc
    have haddress := h i (s.mem_eligible.2 ⟨a, ha, hi⟩) j (s.mem_eligible.2 ⟨b, hb, hj⟩) hname
    obtain ⟨hai, hbi⟩ := s.id?_eq_of_address_eq hi hj haddress
    exact hne _ hai _ hbi rfl
  · intro h i hi j hj hname
    rw [List.inj_on_of_nodup_map ((s.names_nodup_iff rs).2 h) hi hj hname]

/-! ## Nodes -/

/-- The nodes of a plan, with their addresses, are those of the services that are kept. -/
theorem nodes_of_plan {room : Nat} {rs : List Resource} {p : Plan} (hp : s.plan room rs = some p) :
    p.registrations.map (fun r => (r.node, r.address)) =
      (s.eligible rs).map fun i => (i.canonicalName, i.address) := by
  have hall := (plan_eq_some_iff.1 hp).1
  generalize s.eligible rs = services at hall ⊢
  generalize p.registrations = registrations at hall ⊢
  induction hall with
  | nil => rfl
  | cons hr _ ih =>
    obtain ⟨tags, _, rfl⟩ := Option.map_eq_some_iff.1 hr
    rw [List.map_cons, List.map_cons, ih]
    rfl

/-- **When each gateway has a node of its own.** In the plan of a listing with distinct identifiers the nodes are
distinct exactly when no two resources are kept under one name, and the same condition decides whether a registration,
none of which updates its node, lands on a node with the address of another gateway. -/
theorem one_node_for_each_gateway_iff (room : Nat) (rs : List Resource) (hid : (rs.filterMap (·.id?)).Nodup) (p : Plan)
    (hp : s.plan room rs = some p) :
    ((p.registrations.map (·.node)).Nodup ↔ rs.Pairwise fun a b => ¬ s.Collide a b) ∧
      (∀ r ∈ p.registrations, r.skipNodeUpdate = true) ∧
      ((∀ r ∈ p.registrations, ∀ q ∈ p.registrations, r.node = q.node → r.address = q.address) ↔
        rs.Pairwise fun a b => ¬ s.Collide a b) := by
  have hnodes := s.nodes_of_plan hp
  refine ⟨?_, fun r hr => ?_, ?_⟩
  · have hnames : p.registrations.map (·.node) = (s.eligible rs).map (·.canonicalName) := by
      simpa only [List.map_map, Function.comp_def] using congrArg (List.map Prod.fst) hnodes
    rw [hnames, names_nodup_iff]
  · obtain ⟨_, _, hr⟩ := exists_of_mem_registrations hp hr
    obtain ⟨_, _, rfl⟩ := Option.map_eq_some_iff.1 hr
    rfl
  · have hpairs : (∀ r ∈ p.registrations, ∀ q ∈ p.registrations, r.node = q.node → r.address = q.address) ↔
        ∀ e ∈ p.registrations.map (fun r => (r.node, r.address)),
          ∀ f ∈ p.registrations.map (fun r => (r.node, r.address)), e.1 = f.1 → e.2 = f.2 := by
      simp only [List.forall_mem_map]
    rw [hpairs, hnodes, ← s.name_determines_address_iff hid]
    simp only [List.forall_mem_map]

/-- Two gateways with names of their own, one of them with the service tag. -/
theorem nodes_of_orders_and_billing :
    let s := (Config.standard "now").settings
    let rs : List Resource := [(Resource.named "a1" "dev-orders").withTag "STAGE" "dev",
      (Resource.named "b2" "prod-orders").withTag "service" "billing"]
    (rs.filterMap (·.id?)).Nodup ∧
      ∃ p, s.plan 0 rs = some p ∧ p.registrations.map (·.node) = ["orders", "billing"] ∧
        (p.registrations.map (·.node)).Nodup := by
  intro s rs
  have hid : (rs.filterMap (·.id?)).Nodup := by decide
  have hplan : (s.plan 0 rs).map (·.registrations.map (·.node)) = some ["orders", "billing"] := by decide +kernel
  obtain ⟨p, hp, hnodes⟩ := Option.map_eq_some_iff.1 hplan
  exact ⟨hid, p, hp, hnodes, (s.one_node_for_each_gateway_iff 0 rs hid p hp).1.2 (by decide)⟩

/-- Two gateways of one name in different stages are registered on one node, which has the addresses of both. -/
theorem two_gateways_on_one_node :
    let s := (Config.standard "now").settings
    let rs : List Resource := [(Resource.named "a1" "dev-orders").withTag "STAGE" "dev",
      (Resource.named "b2" "prod-orders").withTag "STAGE" "prod"]
    (rs.filterMap (·.id?)).Nodup ∧
      ∃ p, s.plan 0 rs = some p ∧ ¬ (p.registrations.map (·.node)).Nodup ∧
        p.registrations.map (fun r => (r.node, r.address, r.skipNodeUpdate)) =
          [("orders", "a1.execute-api.us-west-2.amazonaws.com", true),
            ("orders", "b2.execute-api.us-west-2.amazonaws.com", true)] := by
  intro s rs
  have hplan : (s.plan 0 rs).map (·.registrations.map fun r => (r.node, r.address, r.skipNodeUpdate)) =
      some [("orders", "a1.execute-api.us-west-2.amazonaws.com", true),
        ("orders", "b2.execute-api.us-west-2.amazonaws.com", true)] := by decide +kernel
  obtain ⟨p, hp, hplaces⟩ := Option.map_eq_some_iff.1 hplan
  have hnodes : p.registrations.map (·.node) = ["orders", "orders"] := by
    have hfirst := congrArg (List.map Prod.fst) hplaces
    rwa [List.map_map] at hfirst
  exact ⟨by decide, p, hp, by rw [hnodes]; decide, hplaces⟩

end Settings
end GatewayRegistrar
