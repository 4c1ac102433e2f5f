import GatewayRegistrar.Json.Parser
import GatewayRegistrar.Json.Printer
import GatewayRegistrar.Proofs.Text.Digits

/-!
# Reading written texts and numbers

A character is read back from the form in which it stands in a quoted text (`quotedChar_escapedChar`), and so is a whole
text (`quotedText_quoted`). An integer that a 64-bit word holds is read back before anything that does not go on with it
(`number_integerText`).
-/

namespace GatewayRegistrar.Json

/-! ## Texts -/

theorem hexDigit?_hexChar : ∀ n < 16, hexDigit? (hexChar n) = some n := by decide

/-- Four digits for the code of a control character. -/
theorem fourHex_hexChar {n : Nat} (hn : n < 0x20) (rest : List Char) :
    fourHex ('0' :: '0' :: hexChar (n / 16) :: hexChar (n % 16) :: rest) = some (n, rest) := by
  have hhigh := hexDigit?_hexChar (n / 16) (by omega)
  have hlow := hexDigit?_hexChar (n % 16) (by omega)
  have hzero : hexDigit? '0' = some 0 := by decide
  have hcode : n / 16 * 16 + n % 16 = n := by omega
  simp [fourHex, hzero, hhigh, hlow, hcode]

/-- **A character is read back** from its form in a quoted text. -/
theorem quotedChar_escapedChar (c : Char) (rest : List Char) :
    quotedChar .exactly (escapedChar c ++ rest) = some (c, rest) := by
  by_cases hshort : c ∈ ['"', '\\', '\n', '\r', '\t', '\x08', '\x0c']
  · simp only [List.mem_cons, List.not_mem_nil, or_false] at hshort
    rcases hshort with rfl | rfl | rfl | rfl | rfl | rfl | rfl <;> rfl
  · simp only [List.mem_cons, List.not_mem_nil, or_false, not_or] at hshort
    obtain ⟨hq, hs, hn, hr, ht, hb, hf⟩ := hshort
    simp only [escapedChar, hq, hs, hn, hr, ht, hb, hf, ↓reduceIte]
    split
    · rename_i hcontrol
      have hunit : c.toNat < 0xD800 := by omega
      simp [quotedChar, fourHex_hexChar hcontrol, unitsChar, hunit, Char.ofNat_toNat]
    · rename_i hcontrol
      simp [quotedChar, hcontrol, hs]

/-- How a character begins in a quoted text: not with the quote that would close it. -/
theorem escapedChar_eq_cons (c : Char) : ∃ x form, escapedChar c = x :: form ∧ x ≠ '"' := by
  by_cases hq : c = '"'
  · subst hq
    exact ⟨_, _, rfl, by decide⟩
  · unfold escapedChar
    repeat' split
    all_goals first | exact ⟨_, _, rfl, by decide⟩ | exact ⟨_, _, rfl, hq⟩

/-- The characters of a text are read back up to the closing quote. -/
theorem quotedChars_escaped (cs rest : List Char) {n : Nat} (hn : cs.length < n) :
    quotedChars .exactly n (cs.flatMap escapedChar ++ '"' :: rest) = some (cs, rest) := by
  induction cs generalizing n with
  | nil =>
    obtain ⟨n, rfl⟩ := Nat.exists_eq_succ_of_ne_zero (Nat.ne_zero_of_lt hn)
    rfl
  | cons c cs ih =>
    obtain ⟨n, rfl⟩ := Nat.exists_eq_succ_of_ne_zero (Nat.ne_zero_of_lt hn)
    have hread := quotedChar_escapedChar c (cs.flatMap escapedChar ++ '"' :: rest)
    have hmore := ih (n := n) (by simpa using hn)
    obtain ⟨x, form, hform, hx⟩ := escapedChar_eq_cons c
    rw [List.flatMap_cons, List.append_assoc]
    rw [hform, List.cons_append] at hread ⊢
    rw [quotedChars]
    · simp [hread, hmore]
    · simp [hx]

theorem length_le_length_escaped (cs : List Char) : cs.length ≤ (cs.flatMap escapedChar).length := by
  induction cs with
  | nil => exact Nat.le_refl 0
  | cons c cs ih =>
    obtain ⟨x, form, hform, _⟩ := escapedChar_eq_cons c
    simp only [List.flatMap_cons, List.length_append, List.length_cons, hform]
    omega

/-- **A text is read back** from its quoted form, behind the opening quote. -/
theorem quotedText_quoted (s : String) (rest : List Char) :
    ∃ cs, quoted s = '"' :: cs ∧ quotedText .exactly (cs ++ rest) = some (s, rest) := by
  refine ⟨s.toList.flatMap escapedChar ++ ['"'], rfl, ?_⟩
  have hlength := length_le_length_escaped s.toList
  have hread := quotedChars_escaped s.toList rest
    (n := (s.toList.flatMap escapedChar ++ ['"'] ++ rest).length + 1) (by simp only [List.length_append]; omega)
  rw [List.append_assoc, List.singleton_append] at hread ⊢
  simp only [quotedText, hread]
  exact congrArg (fun t => some (t, rest)) (String.ofList_toList)

/-! ## Numbers -/

/-- What may follow a number: nothing that goes on with it. -/
def Ends (rest : List Char) : Prop :=
  ∀ c, rest.head? = some c → c.isDigit = false ∧ c ≠ '.' ∧ c ≠ 'e' ∧ c ≠ 'E'

/-- The integers that a 64-bit word holds, with or without a sign. -/
def IsWord (n : Int) : Prop := -0x8000000000000000 ≤ n ∧ n < 0x10000000000000000

/-- How an integer begins. -/
theorem integerText_eq_cons (n : Int) : ∃ c cs, integerText n = c :: cs ∧ (c = '-' ∨ c.isDigit = true) := by
  obtain ⟨d, ds, hcons, hd, _⟩ := decimalText_eq_cons n.natAbs
  unfold integerText
  split
  · exact ⟨_, _, rfl, .inl rfl⟩
  · exact ⟨d, ds, hcons, .inr hd⟩

theorem integerValue_natAbs {n : Int} (hn : IsWord n) :
    integerValue (decide (n < 0)) (decimalText n.natAbs) = .integer n := by
  unfold IsWord at hn
  simp only [integerValue, numberOf_decimalText]
  by_cases hneg : n < 0
  · rw [if_pos (by simpa using hneg), if_pos ⟨by omega, by simp; omega⟩]
    congr 1
    omega
  · rw [if_neg (by simpa using hneg), if_pos (by simp; omega)]
    congr 1
    omega

theorem integerText_eq_append (n : Int) :
    integerText n = (if decide (n < 0) then ['-'] else []) ++ decimalText n.natAbs := by
  unfold integerText
  by_cases hneg : n < 0 <;> simp [hneg]

/-- Digits behind an optional sign are read as an integer when nothing goes on with them. -/
theorem anyNumber_digits {d : Char} {ds rest : List Char} (hd : d.isDigit = true) (hds : ∀ c ∈ ds, c.isDigit = true)
    (hzero : d = '0' → ds = []) (hends : Ends rest) (negative : Bool) :
    anyNumber ((if negative then ['-'] else []) ++ d :: ds ++ rest) = some (integerValue negative (d :: ds), rest) := by
  have hminus : d ≠ '-' := by rintro rfl; exact absurd hd (by decide)
  have hdigits : ∀ c ∈ d :: ds, c.isDigit = true := List.forall_mem_cons.2 ⟨hd, hds⟩
  obtain ⟨htake, hdrop⟩ := takeWhile_dropWhile_append hdigits fun c hc => (hends c hc).1
  rw [List.cons_append] at htake hdrop
  -- what decides is whether the text is over, or else the next character
  cases rest with
  | nil =>
    rw [List.append_nil] at htake hdrop
    cases negative <;> simpa [anyNumber, hminus, htake, hdrop] using hzero
  | cons c cs =>
    obtain ⟨_, hpoint, he, hE⟩ := hends c rfl
    cases negative <;> simpa [anyNumber, hminus, htake, hdrop, hpoint, he, hE] using hzero

/-- **An integer is read back** before anything that does not go on with it. -/
theorem number_integerText {n : Int} (hn : IsWord n) {rest : List Char} (hends : Ends rest) :
    number .exactly (integerText n ++ rest) = some (.integer n, rest) := by
  obtain ⟨d, ds, hcons, hd, hds, hzero⟩ := decimalText_eq_cons n.natAbs
  have hany := anyNumber_digits hd hds hzero hends (decide (n < 0))
  rw [← hcons, ← integerText_eq_append, integerValue_natAbs hn] at hany
  simp [number, hany]

end GatewayRegistrar.Json
