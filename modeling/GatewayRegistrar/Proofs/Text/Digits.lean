import GatewayRegistrar.Decimal.Shortest
import GatewayRegistrar.Text.Digits

/-!
# Decimal texts

The decimal text of a number has at least one digit (`decimalText_eq_cons`) and begins with a zero only for zero. It
stands for the number (`numberOf_decimalText`), and is read back where the number is below the bound
(`wholeBelow?_decimalText`), as any digits behind an optional plus sign are (`wholeBelow?_eq_some_iff`). Digits, like
any characters of one kind, are taken up to the first character that is none (`takeWhile_dropWhile_append`).
-/

namespace GatewayRegistrar

theorem isDigit_of_mem_decimalText {n : Nat} {c : Char} (h : c ∈ decimalText n) : c.isDigit = true :=
  Nat.isDigit_of_mem_toDigits (by decide) (by decide) h

/-- The last digit of a number stands behind the others. -/
theorem decimalText_of_ten_le {n : Nat} (h : 10 ≤ n) :
    decimalText n = decimalText (n / 10) ++ [(n % 10).digitChar] :=
  Nat.toDigits_of_base_le (by decide) h

theorem hexDigit?_digitChar : ∀ n < 10, hexDigit? n.digitChar = some n := by decide

theorem digitChar_ne_zero : ∀ n < 10, 0 < n → n.digitChar ≠ '0' := by decide

/-- The text of a positive number does not begin with a zero. -/
theorem head?_decimalText {n : Nat} (h : 0 < n) : (decimalText n).head? ≠ some '0' := by
  induction n using Nat.strongRecOn with
  | ind n ih =>
    by_cases hn : n < 10
    · rw [decimalText, Nat.toDigits_of_lt_base hn]
      simpa using digitChar_ne_zero n hn h
    · have hhead := ih (n / 10) (by omega) (by omega)
      obtain ⟨d, ds, hcons⟩ := List.exists_cons_of_ne_nil (Nat.toDigits_ne_nil (n := n / 10) (b := 10))
      rw [decimalText, hcons] at hhead
      rw [decimalText_of_ten_le (by omega), decimalText, hcons]
      exact hhead

theorem decimalText_eq_cons (n : Nat) :
    ∃ d ds, decimalText n = d :: ds ∧ d.isDigit = true ∧ (∀ c ∈ ds, c.isDigit = true) ∧ (d = '0' → ds = []) := by
  obtain ⟨d, ds, hcons⟩ := List.exists_cons_of_ne_nil (Nat.toDigits_ne_nil (n := n) (b := 10))
  have hall : ∀ c ∈ d :: ds, c.isDigit = true := fun c hc => isDigit_of_mem_decimalText (hcons ▸ hc)
  refine ⟨d, ds, hcons, hall d List.mem_cons_self, fun c hc => hall c (List.mem_cons_of_mem _ hc), fun hd => ?_⟩
  subst hd
  rcases Nat.eq_zero_or_pos n with rfl | hn
  · rw [Nat.toDigits_zero] at hcons
    exact (List.cons.inj hcons).2.symm
  · exact absurd (by rw [decimalText, hcons]; rfl) (head?_decimalText hn)

theorem numberOf_append_singleton (base : Nat) (ds : List Char) (d : Char) :
    numberOf base (ds ++ [d]) = numberOf base ds * base + (hexDigit? d).getD 0 := by
  simp [numberOf, List.foldl_append]

/-- **The decimal text of a number stands for it.** -/
theorem numberOf_decimalText (n : Nat) : numberOf 10 (decimalText n) = n := by
  induction n using Nat.strongRecOn with
  | ind n ih =>
    by_cases hn : n < 10
    · rw [decimalText, Nat.toDigits_of_lt_base hn]
      simp [numberOf, hexDigit?_digitChar n hn]
    · rw [decimalText_of_ten_le (by omega), numberOf_append_singleton, ih (n / 10) (by omega),
        hexDigit?_digitChar _ (by omega), Option.getD_some]
      omega

/-- A text that does not begin with a plus sign stays as it is without one. -/
theorem withoutPlus_of_digits {ds : List Char} (h : ∀ d ∈ ds, d.isDigit = true) : withoutPlus ds = ds := by
  unfold withoutPlus
  split
  · exact absurd (h '+' List.mem_cons_self) (by decide)
  · rfl

/-- **What is read as a whole number**: one or more digits, behind an optional plus sign, for a number below the
bound. -/
theorem wholeBelow?_eq_some_iff {bound n : Nat} {cs : List Char} :
    wholeBelow? bound cs = some n ↔ ∃ digits, (cs = digits ∨ cs = '+' :: digits) ∧ digits ≠ [] ∧
      (∀ d ∈ digits, d.isDigit = true) ∧ numberOf 10 digits = n ∧ n < bound := by
  have hread : wholeBelow? bound cs = some n ↔ withoutPlus cs ≠ [] ∧ (∀ d ∈ withoutPlus cs, d.isDigit = true) ∧
      numberOf 10 (withoutPlus cs) = n ∧ n < bound := by
    simp only [wholeBelow?, Option.ite_none_right_eq_some, Bool.and_eq_true, Bool.not_eq_true',
      List.isEmpty_eq_false_iff, List.all_eq_true, decide_eq_true_eq, Option.some.injEq, and_assoc]
    constructor
    · rintro ⟨hne, hdigits, hbound, rfl⟩
      exact ⟨hne, hdigits, rfl, hbound⟩
    · rintro ⟨hne, hdigits, rfl, hbound⟩
      exact ⟨hne, hdigits, hbound, rfl⟩
  rw [hread]
  constructor
  · intro h
    refine ⟨withoutPlus cs, ?_, h⟩
    unfold withoutPlus
    split
    · exact .inr rfl
    · exact .inl rfl
  · rintro ⟨digits, htext, h⟩
    have hplain : withoutPlus cs = digits := by
      rcases htext with rfl | rfl
      · exact withoutPlus_of_digits h.2.1
      · rfl
    rwa [hplain]

theorem wholeBelow?_decimalText {bound n : Nat} (h : n < bound) : wholeBelow? bound (decimalText n) = some n :=
  wholeBelow?_eq_some_iff.2
    ⟨_, .inl rfl, Nat.toDigits_ne_nil, fun _ hc => isDigit_of_mem_decimalText hc, numberOf_decimalText n, h⟩

/-- A numeral begins with its sign or a digit, and so with no other character. -/
theorem ne_of_numeral {c : Char} (hc : c = '-' ∨ c.isDigit = true) (x : Char) (hx : x ≠ '-')
    (hdigit : x.isDigit = false) : c ≠ x := by
  rintro rfl
  rcases hc with rfl | hc
  · exact hx rfl
  · rw [hdigit] at hc; cases hc

/-- Characters up to the first that is none of them. -/
theorem takeWhile_dropWhile_append {p : Char → Bool} {cs rest : List Char} (hcs : ∀ c ∈ cs, p c = true)
    (hrest : ∀ c, rest.head? = some c → p c = false) :
    (cs ++ rest).takeWhile p = cs ∧ (cs ++ rest).dropWhile p = rest := by
  rw [List.takeWhile_append_of_pos hcs, List.dropWhile_append_of_pos hcs]
  cases rest with
  | nil => simp
  | cons c rest => simp [hrest c rfl]

end GatewayRegistrar
