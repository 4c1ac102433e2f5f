import GatewayRegistrar.Pattern.Search
import Mathlib.Data.Nat.Bitwise
import Mathlib.Logic.Function.Iterate

/-!
# What a search finds

`Node.Spans t n p q` says, by the form of the node alone, that a match that begins at place `p` may end at place `q`. A
node carries a set of places to exactly those where such matches end (`carries_reach`), so a search finds a match when
there is one anywhere (`matchesIn_iff`).

The search of an unbounded repetition stops after a fixed number of rounds. It loses nothing, because matches never
lead back: rounds that stay at their place can be left out, and there are no more places than rounds
(`Rounds.shorten`).
-/

namespace GatewayRegistrar.Pattern

/-! ## Rounds -/

/-- `q` is reached from `p` in `k` steps. -/
inductive Rounds (R : Nat → Nat → Prop) : Nat → Nat → Nat → Prop
  | zero (p : Nat) : Rounds R 0 p p
  | succ {k p m q : Nat} : R p m → Rounds R k m q → Rounds R (k + 1) p q

section Rounds

variable {R : Nat → Nat → Prop} {j k p m q : Nat}

theorem Rounds.trans (h : Rounds R j p m) (h' : Rounds R k m q) : Rounds R (j + k) p q := by
  induction h with
  | zero p => rwa [Nat.zero_add]
  | succ hstep _ ih => rw [Nat.add_right_comm]; exact .succ hstep (ih h')

theorem Rounds.split (h : Rounds R (j + k) p q) : ∃ m, Rounds R j p m ∧ Rounds R k m q := by
  induction j generalizing p with
  | zero => exact ⟨p, .zero p, by rwa [Nat.zero_add] at h⟩
  | succ j ih =>
    rw [Nat.add_right_comm] at h
    obtain ⟨_, _⟩ | ⟨hstep, hrest⟩ := h
    obtain ⟨m, hj, hk⟩ := ih hrest
    exact ⟨m, .succ hstep hj, hk⟩

/-- What holds of the first place and is kept by each step holds of the last place. -/
theorem Rounds.induct {P : Nat → Prop} (hstep : ∀ p q, R p q → P p → P q) (h : Rounds R k p q) (hp : P p) : P q := by
  induction h with
  | zero p => exact hp
  | succ hR _ ih => exact ih (hstep _ _ hR hp)

/-- Steps that never lead back can be left out where they stay at their place. -/
theorem Rounds.shorten (hR : ∀ p q, R p q → p ≤ q) (h : Rounds R k p q) : p ≤ q ∧ ∃ j ≤ q - p, Rounds R j p q := by
  induction h with
  | zero p => exact ⟨Nat.le_refl p, 0, Nat.zero_le _, .zero p⟩
  | @succ k p m q hstep _ ih =>
    obtain ⟨hmq, j, hj, hrounds⟩ := ih
    have hpm := hR p m hstep
    refine ⟨Nat.le_trans hpm hmq, ?_⟩
    rcases Nat.eq_or_lt_of_le hpm with rfl | hlt
    · exact ⟨j, hj, hrounds⟩
    · exact ⟨j + 1, by omega, .succ hstep hrounds⟩

end Rounds

/-! ## Matches -/

/-- **A match of the node that begins at `p` may end at `q`.** -/
def Node.Spans (t : Subject) : Node → Nat → Nat → Prop
  | .empty, p, q => q = p
  | .symbol cs, p, q => q = p + 1 ∧ ∃ c, t.behind? p = some c ∧ cs.holds c = true
  | .look l, p, q => q = p ∧ t.lookHolds l p = true
  | .repeated least none body, p, q => ∃ k, least ≤ k ∧ Rounds (body.Spans t) k p q
  | .repeated least (some most) body, p, q => ∃ k, least ≤ k ∧ k ≤ max least most ∧ Rounds (body.Spans t) k p q
  | .capture body, p, q | .group body, p, q => body.Spans t p q
  | .sequence a b, p, q => ∃ m, a.Spans t p m ∧ b.Spans t m q
  | .choice a b, p, q => a.Spans t p q ∨ b.Spans t p q

/-- A match of a repetition is made of rounds. -/
theorem Node.Spans.rounds {t : Subject} {least : Nat} {most : Option Nat} {body : Node} {p q : Nat}
    (h : (Node.repeated least most body).Spans t p q) : ∃ k, Rounds (body.Spans t) k p q := by
  cases most with
  | none => exact h.imp fun _ => And.right
  | some most => exact h.imp fun _ h => h.2.2

/-- Matches never lead back. -/
theorem Node.Spans.le {t : Subject} {n : Node} {p q : Nat} (h : n.Spans t p q) : p ≤ q := by
  induction n generalizing p q with
  | empty => exact Nat.le_of_eq (Eq.symm h)
  | symbol cs => rw [h.1]; exact Nat.le_succ p
  | look l => exact Nat.le_of_eq h.1.symm
  | repeated least most body ih =>
    obtain ⟨k, hk⟩ := h.rounds
    exact hk.induct (P := (p ≤ ·)) (fun _ _ hstep hle => Nat.le_trans hle (ih hstep)) (Nat.le_refl p)
  | capture body ih => exact ih h
  | group body ih => exact ih h
  | sequence a b iha ihb =>
    obtain ⟨m, ha, hb⟩ := h
    exact Nat.le_trans (iha ha) (ihb hb)
  | choice a b iha ihb => exact h.elim iha ihb

/-- Matches that begin in the text end in it. -/
theorem Node.Spans.le_size {t : Subject} {n : Node} {p q : Nat} (h : n.Spans t p q) (hp : p ≤ t.chars.size) :
    q ≤ t.chars.size := by
  induction n generalizing p q with
  | empty => exact Eq.symm h ▸ hp
  | symbol cs =>
    obtain ⟨rfl, c, hc, _⟩ := h
    obtain ⟨hlt, _⟩ := Array.getElem?_eq_some_iff.1 hc
    exact hlt
  | look l => exact h.1 ▸ hp
  | repeated least most body ih =>
    obtain ⟨k, hk⟩ := h.rounds
    exact hk.induct (P := (· ≤ t.chars.size)) (fun _ _ hstep hle => ih hstep hle) hp
  | capture body ih => exact ih h hp
  | group body ih => exact ih h hp
  | sequence a b iha ihb =>
    obtain ⟨m, ha, hb⟩ := h
    exact ihb hb (iha ha hp)
  | choice a b iha ihb => exact h.elim (iha · hp) (ihb · hp)

/-! ## Sets of places -/

/-- The set holds places of the text only. -/
def Subject.Within (t : Subject) (s : Places) : Prop := ∀ p, s.testBit p = true → p ≤ t.chars.size

namespace Subject

variable (t : Subject)

theorem testBit_foldl_places (holds : Nat → Bool) (q : Nat) (ps : List Nat) (s : Places) :
    (ps.foldl (fun s p => if holds p then s ||| 1 <<< p else s) s).testBit q =
      (s.testBit q || (decide (q ∈ ps) && holds q)) := by
  induction ps generalizing s with
  | nil => simp
  | cons p ps ih =>
    rw [List.foldl_cons, ih]
    by_cases hq : q = p
    · subst hq
      cases hholds : holds q <;> simp
    · have hbit : (1 <<< p).testBit q = false := by
        rw [Nat.one_shiftLeft, Nat.testBit_two_pow_of_ne (Ne.symm hq)]
      cases holds p <;> simp [hq, hbit]

theorem testBit_placesWhere (holds : Nat → Bool) (q : Nat) :
    (t.placesWhere holds).testBit q = (decide (q ≤ t.chars.size) && holds q) := by
  rw [placesWhere, testBit_foldl_places, Nat.zero_testBit, Bool.false_or]
  simp only [List.mem_range, Nat.lt_succ_iff]

theorem testBit_all (q : Nat) : t.all.testBit q = decide (q ≤ t.chars.size) := by
  rw [all, Nat.one_shiftLeft, Nat.testBit_two_pow_sub_one]
  simp only [Nat.lt_succ_iff]

end Subject

/-! ## Iteration -/

theorem iterate_eq (f : Places → Places) (k : Nat) (s : Places) : iterate f k s = f^[k] s := by
  induction k generalizing s with
  | zero => rfl
  | succ k ih =>
    rw [iterate]
    split
    · rename_i hfixed
      exact (Function.iterate_fixed hfixed (k + 1)).symm
    · exact ih (f s)

theorem closure_eq (f : Places → Places) (k : Nat) (s : Places) : closure f k s = (fun s => s ||| f s)^[k] s := by
  induction k generalizing s with
  | zero => rfl
  | succ k ih =>
    rw [closure]
    split
    · rename_i hfixed
      exact (Function.iterate_fixed hfixed (k + 1)).symm
    · exact ih (s ||| f s)

/-- The function carries sets of places as the relation carries places, and does not lead out of the text. -/
structure Carries (t : Subject) (f : Places → Places) (R : Nat → Nat → Prop) : Prop where
  testBit : ∀ s, t.Within s → ∀ q, (f s).testBit q = true ↔ ∃ p, s.testBit p = true ∧ R p q
  le_size : ∀ p q, R p q → p ≤ t.chars.size → q ≤ t.chars.size

namespace Carries

variable {t : Subject} {f : Places → Places} {R : Nat → Nat → Prop} (h : Carries t f R)
include h

theorem within {s : Places} (hs : t.Within s) : t.Within (f s) := fun q hq => by
  obtain ⟨p, hp, hR⟩ := (h.testBit s hs q).1 hq
  exact h.le_size p q hR (hs p hp)

/-- Rounds that begin in the text end in it. -/
theorem le_size_rounds {k p q : Nat} (hrounds : Rounds R k p q) (hp : p ≤ t.chars.size) : q ≤ t.chars.size :=
  hrounds.induct (P := (· ≤ t.chars.size)) h.le_size hp

theorem iterate (k : Nat) : Carries t (iterate f k) (Rounds R k) := by
  refine ⟨fun s hs q => ?_, fun p q hrounds hp => h.le_size_rounds hrounds hp⟩
  rw [iterate_eq]
  induction k generalizing s with
  | zero => exact ⟨fun hq => ⟨q, hq, .zero q⟩, fun ⟨p, hp, hzero⟩ => by cases hzero; exact hp⟩
  | succ k ih =>
    rw [Function.iterate_succ_apply, ih (f s) (h.within hs)]
    constructor
    · rintro ⟨m, hm, hrounds⟩
      obtain ⟨p, hp, hR⟩ := (h.testBit s hs m).1 hm
      exact ⟨p, hp, .succ hR hrounds⟩
    · rintro ⟨p, hp, _ | ⟨hR, hrounds⟩⟩
      exact ⟨_, (h.testBit s hs _).2 ⟨p, hp, hR⟩, hrounds⟩

theorem closure (k : Nat) : Carries t (closure f k) (fun p q => ∃ j ≤ k, Rounds R j p q) := by
  refine ⟨fun s hs q => ?_, fun p q ⟨j, _, hrounds⟩ hp => h.le_size_rounds hrounds hp⟩
  rw [closure_eq]
  induction k generalizing s with
  | zero =>
    constructor
    · exact fun hq => ⟨q, hq, 0, Nat.le_refl 0, .zero q⟩
    · rintro ⟨p, hp, j, hj, hrounds⟩
      obtain rfl := Nat.le_zero.1 hj
      cases hrounds
      exact hp
  | succ k ih =>
    have hnext : t.Within (s ||| f s) := fun p hp => by
      rw [Nat.testBit_or, Bool.or_eq_true] at hp
      exact hp.elim (hs p) (h.within hs p)
    rw [Function.iterate_succ_apply, ih _ hnext]
    simp only [Nat.testBit_or, Bool.or_eq_true]
    constructor
    · rintro ⟨m, hm | hm, j, hj, hrounds⟩
      · exact ⟨m, hm, j, Nat.le_succ_of_le hj, hrounds⟩
      · obtain ⟨p, hp, hR⟩ := (h.testBit s hs m).1 hm
        exact ⟨p, hp, j + 1, Nat.succ_le_succ hj, .succ hR hrounds⟩
    · rintro ⟨p, hp, j, hj, hrounds⟩
      cases hrounds with
      | zero => exact ⟨_, .inl hp, 0, Nat.zero_le k, .zero _⟩
      | succ hR hrounds =>
        exact ⟨_, .inr ((h.testBit s hs _).2 ⟨p, hp, hR⟩), _, Nat.le_of_succ_le_succ hj, hrounds⟩

omit h in
theorem comp {g : Places → Places} {S : Nat → Nat → Prop} (hg : Carries t g S) (hf : Carries t f R) :
    Carries t (fun s => g (f s)) fun p q => ∃ m, R p m ∧ S m q := by
  refine ⟨fun s hs q => ?_, fun p q ⟨m, hR, hS⟩ hp => hg.le_size m q hS (hf.le_size p m hR hp)⟩
  rw [hg.testBit _ (hf.within hs)]
  constructor
  · rintro ⟨m, hm, hS⟩
    obtain ⟨p, hp, hR⟩ := (hf.testBit s hs m).1 hm
    exact ⟨p, hp, m, hR, hS⟩
  · rintro ⟨p, hp, m, hR, hS⟩
    exact ⟨m, (hf.testBit s hs m).2 ⟨p, hp, hR⟩, hS⟩

omit h in
theorem congr {S : Nat → Nat → Prop} (hf : Carries t f R) (heq : ∀ p q, p ≤ t.chars.size → (R p q ↔ S p q)) :
    Carries t f S :=
  ⟨fun s hs q => (hf.testBit s hs q).trans
      (exists_congr fun p => and_congr_right fun hp => heq p q (hs p hp)),
    fun p q hS hp => hf.le_size p q ((heq p q hp).2 hS) hp⟩

end Carries

/-! ## Searching -/

namespace Node

variable (t : Subject)

/-- **A node carries each set of places to the places where matches end.** -/
theorem carries_reach (n : Node) : Carries t (n.reach t) (n.Spans t) := by
  refine ⟨?_, fun p q h hp => h.le_size hp⟩
  induction n with
  | empty =>
    intro s _ q
    exact ⟨fun hq => ⟨q, hq, rfl⟩, fun ⟨p, hp, hqp⟩ => by rwa [show q = p from hqp]⟩
  | symbol cs =>
    intro s hs q
    simp only [reach, Nat.testBit_shiftLeft, Nat.testBit_and, Subject.testBit_placesWhere, Bool.and_eq_true,
      decide_eq_true_eq, Spans, Option.any_eq_true]
    constructor
    · rintro ⟨hq, hbit, _, hc⟩
      exact ⟨q - 1, hbit, by omega, hc⟩
    · rintro ⟨p, hp, rfl, hc⟩
      exact ⟨by omega, hp, hs p hp, hc⟩
  | look l =>
    intro s hs q
    simp only [reach, Nat.testBit_and, Subject.testBit_placesWhere, Bool.and_eq_true, decide_eq_true_eq, Spans]
    constructor
    · rintro ⟨hq, _, hl⟩
      exact ⟨q, hq, rfl, hl⟩
    · rintro ⟨p, hp, rfl, hl⟩
      exact ⟨hp, hs q hp, hl⟩
  | repeated least most body ih =>
    have hbody : Carries t (body.reach t) (body.Spans t) := ⟨ih, fun p q h hp => h.le_size hp⟩
    cases most with
    | none =>
      refine (Carries.congr ((hbody.closure (t.chars.size + 1)).comp (hbody.iterate least)) fun p q hp => ?_).testBit
      constructor
      · rintro ⟨m, hfirst, j, _, hrest⟩
        exact ⟨least + j, Nat.le_add_right _ _, hfirst.trans hrest⟩
      · rintro ⟨k, hk, hrounds⟩
        rw [← Nat.add_sub_cancel' hk] at hrounds
        obtain ⟨m, hfirst, hrest⟩ := hrounds.split
        -- of the rounds behind the first ones no more are needed than there are places
        obtain ⟨_, j, hj, hshort⟩ := hrest.shorten fun _ _ h => h.le
        have hq : q ≤ t.chars.size := hbody.le_size_rounds (hfirst.trans hrest) hp
        exact ⟨m, hfirst, j, by omega, hshort⟩
    | some most =>
      refine (Carries.congr ((hbody.closure (most - least)).comp (hbody.iterate least)) fun p q hp => ?_).testBit
      constructor
      · rintro ⟨m, hfirst, j, hj, hrest⟩
        exact ⟨least + j, Nat.le_add_right _ _, by omega, hfirst.trans hrest⟩
      · rintro ⟨k, hk, hmost, hrounds⟩
        rw [← Nat.add_sub_cancel' hk] at hrounds
        obtain ⟨m, hfirst, hrest⟩ := hrounds.split
        exact ⟨m, hfirst, k - least, by omega, hrest⟩
  | capture body ih => exact ih
  | group body ih => exact ih
  | sequence a b iha ihb =>
    have ha : Carries t (a.reach t) (a.Spans t) := ⟨iha, fun p q h hp => h.le_size hp⟩
    have hb : Carries t (b.reach t) (b.Spans t) := ⟨ihb, fun p q h hp => h.le_size hp⟩
    exact (hb.comp ha).testBit
  | choice a b iha ihb =>
    intro s hs q
    simp only [reach, Nat.testBit_or, Bool.or_eq_true, Spans, iha s hs, ihb s hs, and_or_left, exists_or]

/-- **A search finds a match exactly when there is one anywhere in the text.** -/
theorem matchesIn_iff {n : Node} {text : String} :
    n.matchesIn text = true ↔
      ∃ p q, p ≤ text.toList.length ∧ n.Spans (.ofText text) p q := by
  have hall : (Subject.ofText text).Within (Subject.ofText text).all := fun p hp => by
    rwa [Subject.testBit_all, decide_eq_true_eq] at hp
  have hreach := (n.carries_reach (.ofText text)).testBit _ hall
  simp only [Subject.testBit_all, decide_eq_true_eq] at hreach
  rw [matchesIn, bne_iff_ne, ← not_iff_not, not_not]
  constructor
  · rintro hzero ⟨p, q, hp, hspans⟩
    have hbit := (hreach q).2 ⟨p, by simpa [Subject.ofText] using hp, hspans⟩
    rw [hzero, Nat.zero_testBit] at hbit
    cases hbit
  · intro hno
    refine Nat.eq_of_testBit_eq fun q => ?_
    rw [Nat.zero_testBit, ← Bool.not_eq_true, hreach q]
    rintro ⟨p, hp, hspans⟩
    exact hno ⟨p, q, by simpa [Subject.ofText] using hp, hspans⟩

end Node

end GatewayRegistrar.Pattern
