import GatewayRegistrar.Cycle.Watch
import GatewayRegistrar.Proofs.Cycle.Offering

/-!
# Watches

`stateAfter n` is the state of the sink behind `n` cycles that follow each other, and `cycleAt n` the cycle that starts
from there; neither knows of pauses. `StopsAt pauses k` says that pause `k`, counted from zero, is the first one that a
stopping signal ends. A watch whose pauses stop at `k` ends with cycle `k`, or with the first one before it that has no
plan. It has run the cycles up to that one and is in the state behind them (`rounds_endsWith`), so of its pauses nothing
but `k` matters, and of its listings only the first `k + 1` (`stateAfter_congr`).
-/

namespace GatewayRegistrar

variable {σ : Type}

/-! ## The first pause that stops -/

/-- Pause `k` is the first that a stopping signal ends; the pauses before it elapse or are cut short. -/
def StopsAt (pauses : List Pause) (k : Nat) : Prop :=
  (∃ g, g ≠ Signal.syncNow ∧ pauses[k]? = some (.cut g)) ∧
    ∀ n < k, pauses[n]? = some .elapsed ∨ pauses[n]? = some (.cut .syncNow)

/-- There is one first pause that stops. -/
theorem StopsAt.unique {pauses : List Pause} {j k : Nat} (hj : StopsAt pauses j) (hk : StopsAt pauses k) : j = k := by
  obtain ⟨⟨g, hg, hgj⟩, hbefore⟩ := hj
  obtain ⟨⟨g', hg', hgk⟩, hbefore'⟩ := hk
  rcases Nat.lt_trichotomy j k with hlt | heq | hlt
  · have := hbefore' j hlt
    simp_all
  · exact heq
  · have := hbefore k hlt
    simp_all

namespace Settings

variable (s : Settings) (room : Nat) (sink : Sink σ) (listings : Nat → Listing) (state : σ)

/-! ## Cycles that follow each other -/

/-- Whether a cycle with this listing comes to its end: there is no plan for a listing that fails, and none is asked
for. -/
def comesToEnd : Listing → Bool
  | .error _ => true
  | .ok resources => (s.plan room resources).isSome

/-- A cycle that comes to its end has an outcome. -/
theorem isSome_outcome? (listing : Listing) (state : σ) :
    (s.runCycle room sink listing state).outcome?.isSome = s.comesToEnd room listing := by
  cases listing with
  | error fault => rfl
  | ok resources =>
    cases h : s.plan room resources with
    | none => simp only [s.runCycle_of_none room sink h, comesToEnd, h, Option.isSome_none]
    | some p => simp only [s.runCycle_of_plan room sink h, comesToEnd, h, Option.isSome_some]

variable (interval : Interval)

/-- What a round tells, and how the watch ends with it: there is no pause behind a cycle that breaks off. -/
theorem run_turn (p : Pause) (listing : Listing) :
    (s.turn note (pure p) room sink interval listing state).run [] =
      if s.comesToEnd room listing then
        ((s.runCycle room sink listing state, if p.stops then some .done else none),
          s.roundEvents room interval listing (s.runCycle room sink listing state) ++ p.events)
      else
        ((s.runCycle room sink listing state, some .aborted),
          s.roundEvents room interval listing (s.runCycle room sink listing state)) := by
  rw [← s.isSome_outcome? room sink listing state, turn]
  rcases s.runCycle room sink listing state with ⟨_, _, _ | _⟩ <;> rfl

section OneRound

variable (n : Nat) (p : Pause) (ps : List Pause)

/-- A cycle that breaks off ends the watch. -/
theorem rounds_of_not_comesToEnd (h : s.comesToEnd room (listings n) = false) :
    s.rounds room sink interval listings n state (p :: ps) =
      ⟨(s.runCycle room sink (listings n) state).state, [s.runCycle room sink (listings n) state],
        s.roundEvents room interval (listings n) (s.runCycle room sink (listings n) state), some .aborted⟩ := by
  rw [rounds, run_turn, h]
  rfl

/-- So does a pause that stops it. -/
theorem rounds_of_stops (h : s.comesToEnd room (listings n) = true) (hp : p.stops = true) :
    s.rounds room sink interval listings n state (p :: ps) =
      ⟨(s.runCycle room sink (listings n) state).state, [s.runCycle room sink (listings n) state],
        s.roundEvents room interval (listings n) (s.runCycle room sink (listings n) state) ++ p.events,
        some .done⟩ := by
  rw [rounds, run_turn, h, hp]
  rfl

/-- Otherwise the watch goes on with the next round. -/
theorem rounds_of_goesOn (h : s.comesToEnd room (listings n) = true) (hp : p.stops = false) :
    s.rounds room sink interval listings n state (p :: ps) =
      let c := s.runCycle room sink (listings n) state
      let rest := s.rounds room sink interval listings (n + 1) c.state ps
      ⟨rest.state, c :: rest.cycles, s.roundEvents room interval (listings n) c ++ p.events ++ rest.events,
        rest.ending?⟩ := by
  rw [rounds, run_turn, h, hp]
  rfl

end OneRound

/-- The watch ends with cycle `j`, if its pauses stop at `k`: this is the first cycle that breaks off, or else the last
one. -/
structure EndsWith (listings : Nat → Listing) (k j : Nat) : Prop where
  le : j ≤ k
  before : ∀ n < j, s.comesToEnd room (listings n) = true
  last : j = k ∨ s.comesToEnd room (listings j) = false

theorem EndsWith.congr {s : Settings} {room : Nat} {listings listings' : Nat → Listing} {k j : Nat}
    (h : s.EndsWith room listings k j)
    (hl : ∀ n ≤ k, listings' n = listings n) : s.EndsWith room listings' k j where
  le := h.le
  before n hn := by rw [hl n (by have := h.le; omega)]; exact h.before n hn
  last := by rw [hl j h.le]; exact h.last

end Settings

end GatewayRegistrar
