import GatewayRegistrar.Cycle.Plan

/-!
# Cycles

A cycle offers the registrations of its plan to a sink, one after the other and each once, whatever the sink says to
the others. A listing that fails leaves the sink alone. Without a plan the cycle breaks off, and the program with it.
-/

namespace GatewayRegistrar

/-- A registration that has been offered, with the fault when it was not taken. -/
structure Offer where
  registration : Registration
  fault? : Option CatalogFault
deriving DecidableEq, Repr

namespace Offer

/-- Whether the registration was taken. -/
def isTaken (o : Offer) : Bool := o.fault?.isNone

/-- What is told about an offer. -/
def events (o : Offer) : List Event :=
  .registering o.registration :: o.fault?.toList.map (.registrationFailed o.registration)

end Offer

/-- Offers registrations one after the other. -/
def offerAll {σ : Type} (sink : Sink σ) : σ → List Registration → σ × List Offer
  | state, [] => (state, [])
  | state, r :: rs =>
    let (state, fault?) := sink state r
    let (state, offers) := offerAll sink state rs
    (state, ⟨r, fault?⟩ :: offers)

/-- A cycle: the state of the sink behind it, what was offered to it, and the report or why there is none. A cycle that
breaks off comes to neither. -/
structure Cycle (σ : Type) where
  state : σ
  offers : List Offer
  outcome? : Option (Except ListingFault Report)

/-- How the program can leave its work: when it is done, or because it has broken off. -/
inductive Completion where
  | done
  | aborted
deriving DecidableEq, Repr

namespace Settings

/-- Runs a cycle, given the room for inclusions in templates. -/
def runCycle {σ : Type} (s : Settings) (room : Nat) (sink : Sink σ) (listing : Listing) (state : σ) : Cycle σ :=
  match listing with
  | .error fault => ⟨state, [], some (.error fault)⟩
  | .ok resources =>
    match s.plan room resources with
    | none => ⟨state, [], none⟩
    | some p =>
      let (state, offers) := offerAll sink state p.registrations
      ⟨state, offers, some (.ok { p.report with
        registered := offers.countP (·.isTaken)
        failed := offers.countP (!·.isTaken) })⟩

/-- What is told about a cycle while it runs. -/
def cycleEvents {σ : Type} (s : Settings) (room : Nat) (listing : Listing) (c : Cycle σ) : List Event :=
  match listing with
  | .error _ => []
  | .ok resources => s.planEvents room resources ++ c.offers.flatMap Offer.events

end Settings

end GatewayRegistrar
