import GatewayRegistrar.Config.Interval
import GatewayRegistrar.Proofs.Text.Blank
import GatewayRegistrar.Proofs.Text.Digits
import Mathlib.Data.List.Induction
import Mathlib.Data.Nat.Digits.Defs

/-!
# How intervals are written

An interval is a numeral and an ending that tells its unit (`Spells`). Only one ending is cut off, and in front of it
stands a digit; so no shorter ending, as the `s` of `ms`, is cut off in its place (`splitUnit_append`). What is left has
to be a numeral, and number and seconds have to fit in 64 bits. An interval is read exactly from such texts between
blanks (`ofText?_eq_some_iff`).
-/

namespace GatewayRegistrar
namespace Interval

variable {text number : List Char} {n : Nat} {d : Interval}

/-! ## Numerals -/

/-- **The text is a numeral for the number**: one or more digits, behind an optional plus sign. -/
def IsNumeral (text : List Char) (n : Nat) : Prop :=
  ∃ digits, (text = digits ∨ text = '+' :: digits) ∧ digits ≠ [] ∧ (∀ c ∈ digits, c.isDigit = true) ∧
    Nat.ofDigits 10 (digits.reverse.map digitValue) = n

/-- The first digit of a number counts most. -/
theorem numberOf_eq_ofDigits {digits : List Char} (h : ∀ c ∈ digits, c.isDigit = true) :
    numberOf 10 digits = Nat.ofDigits 10 (digits.reverse.map digitValue) := by
  induction digits using List.reverseRecOn with
  | nil => rfl
  | append_singleton ds c ih =>
    have hc : hexDigit? c = some (digitValue c) := by rw [hexDigit?, if_pos (h c (by simp))]
    rw [numberOf_append_singleton, ih fun c hc => h c (List.mem_append_left _ hc), hc, Option.getD_some,
      List.reverse_append, List.reverse_singleton, List.singleton_append, List.map_cons, Nat.ofDigits_cons]
    omega

theorem wholeBelow?_eq_some_iff_isNumeral {limit : Nat} :
    wholeBelow? limit text = some n ↔ IsNumeral text n ∧ n < limit := by
  rw [wholeBelow?_eq_some_iff]
  constructor
  · rintro ⟨digits, htext, hne, hdigits, hnumber, hlimit⟩
    exact ⟨⟨digits, htext, hne, hdigits, by rw [← numberOf_eq_ofDigits hdigits, hnumber]⟩, hlimit⟩
  · rintro ⟨⟨digits, htext, hne, hdigits, hnumber⟩, hlimit⟩
    exact ⟨digits, htext, hne, hdigits, by rw [numberOf_eq_ofDigits hdigits, hnumber], hlimit⟩

/-- A numeral ends with a digit. -/
theorem IsNumeral.eq_concat (h : IsNumeral text n) : ∃ front c, text = front ++ [c] ∧ c.isDigit = true := by
  obtain ⟨digits, htext, hne, hdigits, _⟩ := h
  have hlast : digits.getLast hne ∈ digits := List.getLast_mem hne
  rcases htext with rfl | rfl
  · exact ⟨_, _, (List.dropLast_concat_getLast hne).symm, hdigits _ hlast⟩
  · refine ⟨'+' :: digits.dropLast, _, ?_, hdigits _ hlast⟩
    rw [List.cons_append, List.dropLast_concat_getLast hne]

/-- A numeral begins with a character that is not blank. -/
theorem IsNumeral.head? (h : IsNumeral text n) : ∃ c, text.head? = some c ∧ isBlank c = false := by
  obtain ⟨digits, htext, hne, hdigits, _⟩ := h
  rcases htext with rfl | rfl
  · obtain ⟨c, cs, rfl⟩ := List.exists_cons_of_ne_nil hne
    exact ⟨c, rfl, isBlank_of_isDigit (hdigits c List.mem_cons_self)⟩
  · exact ⟨'+', rfl, by decide⟩

/-! ## Spellings -/

/-- **How an interval is written**: a numeral of 64 bits with an ending for its unit, or with none for seconds. The
seconds of minutes and hours have to fit in 64 bits too. -/
inductive Spells : List Char → Interval → Prop
  | bare {number : List Char} {n : Nat} : IsNumeral number n → n < UInt64.size → Spells number ⟨1000 * n⟩
  | seconds {number : List Char} {n : Nat} : IsNumeral number n → n < UInt64.size → Spells (number ++ ['s']) ⟨1000 * n⟩
  | milliseconds {number : List Char} {n : Nat} : IsNumeral number n → n < UInt64.size →
      Spells (number ++ ['m', 's']) ⟨n⟩
  | minutes {number : List Char} {n : Nat} : IsNumeral number n → n < UInt64.size → 60 * n < UInt64.size →
      Spells (number ++ ['m']) ⟨1000 * (60 * n)⟩
  | hours {number : List Char} {n : Nat} : IsNumeral number n → n < UInt64.size → 3600 * n < UInt64.size →
      Spells (number ++ ['h']) ⟨1000 * (3600 * n)⟩

/-- The endings of intervals, with the milliseconds in each unit. -/
def endings : List (List Char × Nat) := ([], 1000) :: units

theorem bound_eq : bound = UInt64.size := by decide

/-- The five ways to write an interval in one. -/
theorem spells_iff :
    Spells text d ↔ ∃ number ending size n, (ending, size) ∈ endings ∧ text = number ++ ending ∧ IsNumeral number n ∧
      n < bound ∧ n * size / 1000 < bound ∧ d = ⟨n * size⟩ := by
  simp only [bound_eq]
  constructor
  · intro h
    cases h with
    | bare hn hfits =>
      refine ⟨_, [], 1000, _, by decide, (List.append_nil _).symm, hn, hfits, by omega, ?_⟩
      rw [Nat.mul_comm]
    | seconds hn hfits =>
      refine ⟨_, ['s'], 1000, _, by decide, rfl, hn, hfits, by omega, ?_⟩
      rw [Nat.mul_comm]
    | milliseconds hn hfits =>
      refine ⟨_, ['m', 's'], 1, _, by decide, rfl, hn, hfits, by omega, ?_⟩
      rw [Nat.mul_one]
    | minutes hn hfits hseconds =>
      refine ⟨_, ['m'], 60000, _, by decide, rfl, hn, hfits, by omega, ?_⟩
      rw [← Nat.mul_assoc, Nat.mul_comm]
    | hours hn hfits hseconds =>
      refine ⟨_, ['h'], 3600000, _, by decide, rfl, hn, hfits, by omega, ?_⟩
      rw [← Nat.mul_assoc, Nat.mul_comm]
  · rintro ⟨number, ending, size, n, hending, rfl, hn, hfits, hseconds, rfl⟩
    simp only [endings, units, List.mem_cons, Prod.mk.injEq, List.not_mem_nil, or_false] at hending
    rcases hending with ⟨rfl, rfl⟩ | ⟨rfl, rfl⟩ | ⟨rfl, rfl⟩ | ⟨rfl, rfl⟩ | ⟨rfl, rfl⟩
    · rw [List.append_nil, Nat.mul_comm]
      exact .bare hn hfits
    · rw [Nat.mul_one]
      exact .milliseconds hn hfits
    · rw [Nat.mul_comm]
      exact .seconds hn hfits
    · rw [show n * 60000 = 1000 * (60 * n) by omega]
      exact .minutes hn hfits (by omega)
    · rw [show n * 3600000 = 1000 * (3600 * n) by omega]
      exact .hours hn hfits (by omega)

/-! ## Units -/

/-- What is cut off is one of the endings. -/
theorem mem_endings_of_splitUnit {us : List (List Char × Nat)} {size : Nat} (h : splitUnit text us = (number, size)) :
    ∃ ending, (ending, size) ∈ ([], 1000) :: us ∧ text = number ++ ending := by
  induction us with
  | nil =>
    cases h
    exact ⟨[], List.mem_cons_self, (List.append_nil _).symm⟩
  | cons u us ih =>
    rw [splitUnit] at h
    split at h
    · rename_i front hfront
      cases h
      exact ⟨u.1, List.mem_cons_of_mem _ List.mem_cons_self, dropEnding?_eq_some_iff.1 hfront⟩
    · obtain ⟨ending, hmem, htext⟩ := ih h
      refine ⟨ending, ?_, htext⟩
      rcases List.mem_cons.1 hmem with hbare | hmem
      · exact hbare ▸ List.mem_cons_self
      · exact List.mem_cons_of_mem _ (List.mem_cons_of_mem _ hmem)

/-- **The ending behind a numeral is cut off**, and no other. -/
theorem splitUnit_append {ending : List Char} {size : Nat} (hn : IsNumeral number n) (h : (ending, size) ∈ endings) :
    splitUnit (number ++ ending) units = (number, size) := by
  obtain ⟨front, c, rfl, hc⟩ := hn.eq_concat
  have hs : 's' ≠ c := by rintro rfl; exact absurd hc (by decide)
  have hm : 'm' ≠ c := by rintro rfl; exact absurd hc (by decide)
  have hh : 'h' ≠ c := by rintro rfl; exact absurd hc (by decide)
  simp only [endings, units, List.mem_cons, Prod.mk.injEq, List.not_mem_nil, or_false] at h
  rcases h with ⟨rfl, rfl⟩ | ⟨rfl, rfl⟩ | ⟨rfl, rfl⟩ | ⟨rfl, rfl⟩ | ⟨rfl, rfl⟩ <;>
    simp [splitUnit, units, dropEnding?, dropStart?, hs, hm, hh]

/-! ## Reading -/

theorem ofText?_eq_some_iff_read (s : String) :
    ofText? s = some d ↔ ∃ number size n, splitUnit (trimBlanks s.toList) units = (number, size) ∧
      wholeBelow? bound number = some n ∧ n * size / 1000 < bound ∧ d = ⟨n * size⟩ := by
  simp only [ofText?, Option.bind_eq_bind, Option.bind_eq_some_iff, Option.ite_none_right_eq_some,
    Option.some.injEq]
  constructor
  · rintro ⟨n, hn, hseconds, rfl⟩
    exact ⟨_, _, n, rfl, hn, hseconds, rfl⟩
  · rintro ⟨number, size, n, hsplit, hn, hseconds, rfl⟩
    rw [hsplit]
    exact ⟨n, hn, hseconds, rfl⟩

/-- The trimmed text spells what is read. -/
theorem ofText?_eq_some_iff_trimmed (s : String) : ofText? s = some d ↔ Spells (trimBlanks s.toList) d := by
  rw [ofText?_eq_some_iff_read, spells_iff]
  simp only [wholeBelow?_eq_some_iff_isNumeral]
  constructor
  · rintro ⟨number, size, n, hsplit, ⟨hn, hfits⟩, hseconds, rfl⟩
    obtain ⟨ending, hending, htext⟩ := mem_endings_of_splitUnit hsplit
    exact ⟨number, ending, size, n, hending, htext, hn, hfits, hseconds, rfl⟩
  · rintro ⟨number, ending, size, n, hending, htext, hn, hfits, hseconds, rfl⟩
    exact ⟨number, size, n, by rw [htext, splitUnit_append hn hending], ⟨hn, hfits⟩, hseconds, rfl⟩

/-- What an interval is written with is not blank at its ends. -/
theorem Spells.trimBlanks_eq {front back : List Char} (h : Spells text d) (hfront : ∀ c ∈ front, isBlank c = true)
    (hback : ∀ c ∈ back, isBlank c = true) : trimBlanks (front ++ text ++ back) = text := by
  obtain ⟨number, ending, size, n, hending, rfl, hn, -⟩ := spells_iff.1 h
  obtain ⟨c, hfirst, hc⟩ := hn.head?
  obtain ⟨init, digit, hnumber, hdigit⟩ := hn.eq_concat
  have hstart : (number ++ ending).head? = some c := by rw [List.head?_append, hfirst]; rfl
  have hlast : ∃ e, (number ++ ending).getLast? = some e ∧ isBlank e = false := by
    simp only [endings, units, List.mem_cons, Prod.mk.injEq, List.not_mem_nil, or_false] at hending
    rcases hending with ⟨rfl, -⟩ | ⟨rfl, -⟩ | ⟨rfl, -⟩ | ⟨rfl, -⟩ | ⟨rfl, -⟩
    · exact ⟨digit, by simp [hnumber], isBlank_of_isDigit hdigit⟩
    · exact ⟨'s', by simp, by decide⟩
    · exact ⟨'s', by simp, by decide⟩
    · exact ⟨'m', by simp, by decide⟩
    · exact ⟨'h', by simp, by decide⟩
  obtain ⟨e, hend, he⟩ := hlast
  exact trimBlanks_append hfront hback hstart hc hend he

/-- **An interval is read exactly from its spellings**, with any blanks around them. -/
theorem ofText?_eq_some_iff (s : String) :
    ofText? s = some d ↔ ∃ front text back, s.toList = front ++ text ++ back ∧ (∀ c ∈ front, isBlank c = true) ∧
      (∀ c ∈ back, isBlank c = true) ∧ Spells text d := by
  rw [ofText?_eq_some_iff_trimmed]
  constructor
  · intro h
    obtain ⟨front, back, hs, hfront, hback⟩ := exists_trimBlanks s.toList
    exact ⟨front, _, back, hs, hfront, hback, h⟩
  · rintro ⟨front, text, back, hs, hfront, hback, h⟩
    rw [hs, h.trimBlanks_eq hfront hback]
    exact h

/-- The seconds of an interval that is read fit in 64 bits. -/
theorem Spells.seconds_lt (h : Spells text d) : d.seconds < UInt64.size := by
  obtain ⟨_, _, _, n, _, _, _, _, hseconds, rfl⟩ := spells_iff.1 h
  rwa [← bound_eq]

/-- Seconds and nanoseconds of an interval add up to it. -/
theorem seconds_add_nanoseconds (d : Interval) :
    d.nanoseconds < 1000000000 ∧ d.seconds * 1000000000 + d.nanoseconds = d.milliseconds * 1000000 := by
  simp only [seconds, nanoseconds]
  omega

/-- **The spellings of intervals.** A text is read as an interval exactly when it is, between any blanks, an optional
plus sign and one or more digits, directly followed by no ending, `s`, `ms`, `m` or `h`, where the number and for
minutes and hours its seconds fit in 64 bits; the interval is then exactly as many seconds, milliseconds, minutes or
hours. No other text is read. What is read is whole: its seconds fit in 64 bits, and with its nanoseconds they add up
to it. -/
theorem interval_spellings (s : String) :
    (∀ d, ofText? s = some d ↔
      ∃ front text back, s.toList = front ++ text ++ back ∧ (∀ c ∈ front, isBlank c = true) ∧
        (∀ c ∈ back, isBlank c = true) ∧ Spells text d) ∧
    (ofText? s = none ↔
      ∀ front text back, s.toList = front ++ text ++ back → (∀ c ∈ front, isBlank c = true) →
        (∀ c ∈ back, isBlank c = true) → ∀ d, ¬ Spells text d) ∧
    ∀ d, ofText? s = some d →
      d.seconds < UInt64.size ∧ d.nanoseconds < 1000000000 ∧
        d.seconds * 1000000000 + d.nanoseconds = d.milliseconds * 1000000 := by
  refine ⟨fun d => ofText?_eq_some_iff s, ?_, ?_⟩
  · rw [Option.eq_none_iff_forall_ne_some]
    constructor
    · intro hnone front text back hs hfront hback d hspells
      exact hnone d ((ofText?_eq_some_iff s).2 ⟨front, text, back, hs, hfront, hback, hspells⟩)
    · intro hnone d hd
      obtain ⟨front, text, back, hs, hfront, hback, hspells⟩ := (ofText?_eq_some_iff s).1 hd
      exact hnone front text back hs hfront hback d hspells
  · intro d hd
    exact ⟨((ofText?_eq_some_iff_trimmed s).1 hd).seconds_lt, seconds_add_nanoseconds d⟩

/-- One second and a half, between blanks. -/
theorem interval_of_milliseconds :
    ofText? "\u2003+1500ms\t" = some ⟨1500⟩ ∧ Interval.seconds ⟨1500⟩ = 1 ∧ Interval.nanoseconds ⟨1500⟩ = 500000000 ∧
      Interval.seconds ⟨1500⟩ * 1000000000 + Interval.nanoseconds ⟨1500⟩ = 1500 * 1000000 := by
  have hread : ofText? "\u2003+1500ms\t" = some ⟨1500⟩ := by decide +kernel
  exact ⟨hread, rfl, rfl, ((interval_spellings _).2.2 _ hread).2.2⟩

/-- The longest interval in minutes, and one minute more. -/
example : ofText? "307445734561825860m" = some ⟨18446744073709551600000⟩ ∧ ofText? "307445734561825861m" = none := by
  decide +kernel

end Interval
end GatewayRegistrar
