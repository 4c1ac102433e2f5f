import GatewayRegistrar.Json.Parser
import Mathlib.Data.List.Forall2

/-!
# Reading a part of a value

What is not asked for is read by its form only, and this is no obstacle: wherever a value can be read exactly, its form
is read up to the same place (`value_byForm`). Therefore a text that is read as a value is also read where only a part of
it is asked for, as that part of the value (`parseSelected?_of_parse?`).
-/

namespace GatewayRegistrar.Json

/-! ## Readers that go together -/

/-- What the first reader reads of a text that is not longer than `bound`, the second one reads up to the same place,
with a result that stands in the relation to that of the first. -/
def GoesWith {α β : Type} (bound : Nat) (R : α → β → Prop) (reader : Reader α) (other : Reader β) : Prop :=
  ∀ ⦃cs a rest⦄, cs.length ≤ bound → reader cs = some (a, rest) →
    rest.length ≤ cs.length ∧ ∃ b, other cs = some (b, rest) ∧ R a b

theorem length_skipBlanks_le (cs : List Char) : (skipBlanks cs).length ≤ cs.length :=
  (List.dropWhile_suffix _).length_le

theorem length_of_skipBlanks_eq {cs rest : List Char} {c : Char} (h : skipBlanks cs = c :: rest) :
    rest.length < cs.length := by
  have hlength := length_skipBlanks_le cs
  rw [h, List.length_cons] at hlength
  omega

variable {bound n : Nat} {cs rest : List Char}

/-! ## Texts -/

theorem length_of_fourHex {unit : Nat} (h : fourHex cs = some (unit, rest)) : rest.length < cs.length := by
  unfold fourHex at h
  split at h
  · simp only [Option.bind_eq_bind, Option.bind_eq_some_iff, Option.some.injEq, Prod.mk.injEq] at h
    obtain ⟨_, _, _, _, _, _, _, _, _, rfl⟩ := h
    simp only [List.length_cons]
    omega
  · cases h

/-- The units of a character that are read exactly are read by their form: the first one, and the second one, if there
is one, as another character. -/
theorem unitsChar_byForm {unit : Nat} {c : Char} (h : unitsChar .exactly unit cs = some (c, rest)) :
    (unitsChar .byForm unit cs = some (c, rest) ∧ rest = cs) ∨
      ∃ d e more, unitsChar .byForm unit cs = some (d, '\\' :: more) ∧ cs = '\\' :: more ∧
        quotedChar .byForm cs = some (e, rest) ∧ rest.length < more.length := by
  unfold unitsChar at h
  by_cases hplain : unit < 0xD800 ∨ 0xDFFF < unit
  · rw [if_pos hplain] at h
    cases h
    exact .inl ⟨if_pos hplain, rfl⟩
  · rw [if_neg hplain, if_neg (by decide)] at h
    split at h
    · cases h
    · split at h
      · rename_i more
        simp only [Option.bind_eq_bind, Option.bind_eq_some_iff] at h
        obtain ⟨⟨low, after⟩, hlow, h⟩ := h
        split at h
        · rename_i hsecond
          rw [Option.some.injEq, Prod.mk.injEq] at h
          obtain ⟨_, rfl⟩ := h
          have hlength := length_of_fourHex hlow
          refine .inr ⟨'?', '?', 'u' :: more, by simp [unitsChar, hplain], rfl, ?_, by simp; omega⟩
          have hform : ¬(low < 0xD800 ∨ 0xDFFF < low) := by omega
          simp [quotedChar, hlow, unitsChar, hform]
        · cases h
      · cases h

/-- A character that is not written by its units is read in one manner only. -/
theorem quotedChar_of_not_units (hcs : ∀ units, cs ≠ '\\' :: 'u' :: units) {c : Char} {m : Manner}
    (h : quotedChar m cs = some (c, rest)) : rest.length < cs.length ∧ ∀ m, quotedChar m cs = some (c, rest) := by
  have hmanner : ∀ k, quotedChar k cs = quotedChar m cs := by
    intro k
    unfold quotedChar
    split
    · exact absurd rfl (hcs _)
    · rfl
    · rfl
    · rfl
  refine ⟨?_, fun k => (hmanner k).trans h⟩
  unfold quotedChar at h
  split at h
  · exact absurd rfl (hcs _)
  · split at h <;> cases h <;> simp only [List.length_cons] <;> omega
  · split at h
    · cases h
    · cases h
      exact Nat.lt_succ_self _
  · cases h

/-- A character that is read exactly is read by its form as one character or as two. -/
theorem quotedChar_byForm {c : Char} (h : quotedChar .exactly cs = some (c, rest)) :
    rest.length < cs.length ∧
      ((∃ d, quotedChar .byForm cs = some (d, rest)) ∨
        ∃ d e more, quotedChar .byForm cs = some (d, '\\' :: more) ∧ more.length < cs.length ∧
          quotedChar .byForm ('\\' :: more) = some (e, rest) ∧ rest.length < more.length) := by
  by_cases hunits : ∃ units, cs = '\\' :: 'u' :: units
  · obtain ⟨units, rfl⟩ := hunits
    simp only [quotedChar, Option.bind_eq_bind, Option.bind_eq_some_iff] at h
    obtain ⟨⟨unit, after⟩, hunit, h⟩ := h
    have hlength := length_of_fourHex hunit
    have hread : ∀ {d later}, unitsChar .byForm unit after = some (d, later) →
        quotedChar .byForm ('\\' :: 'u' :: units) = some (d, later) := by
      intro d later hunits
      simp only [quotedChar, Option.bind_eq_bind, hunit, Option.bind_some, hunits]
    obtain ⟨hone, rfl⟩ | ⟨d, e, more, hone, rfl, htwo, hmore⟩ := unitsChar_byForm h
    · exact ⟨by simp only [List.length_cons]; omega, .inl ⟨c, hread hone⟩⟩
    · rw [List.length_cons] at hlength
      refine ⟨?_, .inr ⟨d, e, more, hread hone, ?_, htwo, hmore⟩⟩ <;> simp only [List.length_cons] <;> omega
  · obtain ⟨hlength, hform⟩ := quotedChar_of_not_units (fun units hcs => hunits ⟨units, hcs⟩) h
    exact ⟨hlength, .inl ⟨c, hform .byForm⟩⟩

/-- The first character up to the closing quote. -/
theorem quotedChars_succ (m : Manner) (n : Nat) (hquote : cs.head? ≠ some '"') :
    quotedChars m (n + 1) cs = (quotedChar m cs).bind fun (c, more) =>
      (quotedChars m n more).map fun (s, rest) => (c :: s, rest) := by
  rw [quotedChars]
  · cases quotedChar m cs with
    | none => rfl
    | some found => cases hmore : quotedChars m n found.2 <;> simp [hmore]
  · rintro more rfl
    exact hquote rfl

/-- **The characters that are read exactly are read by their form up to the same quote.** -/
theorem quotedChars_byForm {s : List Char} (h : quotedChars .exactly n cs = some (s, rest)) {m : Nat}
    (hm : cs.length < m) : rest.length < cs.length ∧ ∃ t, quotedChars .byForm m cs = some (t, rest) := by
  induction n generalizing cs s m with
  | zero => cases h
  | succ n ih =>
    obtain ⟨m, rfl⟩ := Nat.exists_eq_succ_of_ne_zero (Nat.ne_zero_of_lt hm)
    by_cases hquote : cs.head? = some '"'
    · cases cs with
      | nil => cases hquote
      | cons c cs =>
        cases hquote
        cases h
        exact ⟨Nat.lt_succ_self _, [], rfl⟩
    · rw [quotedChars_succ _ _ hquote, Option.bind_eq_some_iff] at h
      obtain ⟨⟨c, after⟩, hchar, h⟩ := h
      obtain ⟨⟨t, _⟩, hmore, h⟩ := Option.map_eq_some_iff.1 h
      cases h
      obtain ⟨hlength, hform⟩ := quotedChar_byForm hchar
      rw [quotedChars_succ _ _ hquote]
      obtain ⟨d, hone⟩ | ⟨d, e, more, hone, hshort, htwo, hshorter⟩ := hform
      · obtain ⟨hrest, u, hu⟩ := ih hmore (m := m) (by omega)
        exact ⟨by omega, d :: u, by simp [hone, hu]⟩
      · -- the second unit takes one more step
        obtain ⟨m, rfl⟩ := Nat.exists_eq_succ_of_ne_zero (n := m) (by omega)
        obtain ⟨hrest, u, hu⟩ := ih hmore (m := m) (by omega)
        have hstart : ('\\' :: more).head? ≠ some '"' := by simp
        have hsecond := quotedChars_succ .byForm m hstart
        rw [htwo] at hsecond
        exact ⟨by omega, d :: e :: u, by simp [hone, hsecond, hu]⟩

theorem goesWith_quotedText_byForm : GoesWith bound (fun _ _ => True) (quotedText .exactly) (quotedText .byForm) := by
  intro cs s rest _ h
  simp only [quotedText, Option.bind_eq_bind, Option.bind_eq_some_iff, Option.some.injEq, Prod.mk.injEq] at h
  obtain ⟨⟨chars, after⟩, hchars, _, rfl⟩ := h
  obtain ⟨hlength, t, ht⟩ := quotedChars_byForm hchars (Nat.lt_succ_self cs.length)
  refine ⟨Nat.le_of_lt hlength, String.ofList t, ?_, trivial⟩
  simp only [quotedText, ht, Option.bind_eq_bind, Option.bind_some]

/-- A text that is read exactly goes with itself. -/
theorem goesWith_quotedText : GoesWith bound Eq (quotedText .exactly) (quotedText .exactly) :=
  fun _ s _ hbound h => ⟨(goesWith_quotedText_byForm hbound h).1, s, h, rfl⟩

/-! ## Numbers -/

theorem length_of_exponentPart {e : Int} (h : exponentPart cs = some (e, rest)) : rest.length ≤ cs.length := by
  have hdigits := fun ds : List Char => (List.dropWhile_suffix (l := ds) Char.isDigit).length_le
  unfold exponentPart at h
  grind

/-- Numbers, which have no parts. -/
inductive IsNumber : Value → Prop
  | integer (n : Int) : IsNumber (.integer n)
  | float (x : Binary64) : IsNumber (.float x)

theorem isNumber_integerValue (negative : Bool) (whole : List Char) : IsNumber (integerValue negative whole) := by
  unfold integerValue
  dsimp only
  split <;> split
  · exact .integer _
  · exact .float _
  · exact .integer _
  · exact .float _

/-- A power of ten is read, if there is one, and then the number is put together. -/
theorem power_eq_some (cs : List Char) {found : Option Int × List Char → Value} (hfound : ∀ x, IsNumber (found x))
    {v : Value} (h : (match cs with
      | 'e' :: more => ((exponentPart more).map fun x => (some x.1, x.2)).bind fun x => some (found x, x.2)
      | 'E' :: more => ((exponentPart more).map fun x => (some x.1, x.2)).bind fun x => some (found x, x.2)
      | _ => some (found (none, cs), cs)) = some (v, rest)) : rest.length ≤ cs.length ∧ IsNumber v := by
  have hpower : ∀ {more}, (((exponentPart more).map fun x => (some x.1, x.2)).bind fun x => some (found x, x.2)) =
      some (v, rest) → rest.length ≤ more.length ∧ IsNumber v := by
    intro more h
    obtain ⟨x, hpower, h⟩ := Option.bind_eq_some_iff.1 h
    obtain ⟨y, hexponent, rfl⟩ := Option.map_eq_some_iff.1 hpower
    cases h
    exact ⟨length_of_exponentPart hexponent, hfound _⟩
  split at h
  · obtain ⟨hlength, hv⟩ := hpower h
    exact ⟨Nat.le_succ_of_le hlength, hv⟩
  · obtain ⟨hlength, hv⟩ := hpower h
    exact ⟨Nat.le_succ_of_le hlength, hv⟩
  · cases h
    exact ⟨Nat.le_refl _, hfound _⟩

theorem anyNumber_eq_some {v : Value} (h : anyNumber cs = some (v, rest)) : rest.length ≤ cs.length ∧ IsNumber v := by
  unfold anyNumber at h
  split at h
  rename_i negative digits hsign
  have hstart : digits.length ≤ cs.length := by
    split at hsign <;> cases hsign
    · exact Nat.le_succ _
    · exact Nat.le_refl _
  have hwhole := (List.dropWhile_suffix (l := digits) Char.isDigit).length_le
  dsimp only at h
  split at h
  · cases h
  · -- a point with digits behind it, or no point
    split at h
    · rename_i more hpoint
      have hfraction := (List.dropWhile_suffix (l := more) Char.isDigit).length_le
      rw [hpoint, List.length_cons] at hwhole
      split at h
      · cases h
      · obtain ⟨hpower, hv⟩ := power_eq_some (more.dropWhile Char.isDigit) (fun _ => .float _) h
        exact ⟨by omega, hv⟩
    · have hpower := power_eq_some (digits.dropWhile Char.isDigit) (fun x => by
        dsimp only
        split
        · exact isNumber_integerValue ..
        · exact .float _) h
      exact ⟨Nat.le_trans hpower.1 (Nat.le_trans hwhole hstart), hpower.2⟩

/-- A number that is read exactly is read by its form. -/
theorem goesWith_number : GoesWith bound (fun _ _ => True) (number .exactly) (number .byForm) := by
  intro cs v rest _ h
  unfold number at h
  split at h
  · cases h
  · rename_i hfinite
    refine ⟨(anyNumber_eq_some h).1, v, ?_, trivial⟩
    unfold number
    rw [h]
    split
    · rename_i heq
      cases heq
      exact absurd h (hfinite _ _)
    · rfl

/-! ## Scalars -/

theorem goesWith_scalar : GoesWith bound (fun _ _ => True) (scalar .exactly) (scalar .byForm) := by
  intro cs v rest hbound h
  unfold scalar at h
  split at h
  · cases h
    exact ⟨by simp only [List.length_cons]; omega, .null, rfl, trivial⟩
  · cases h
    exact ⟨by simp only [List.length_cons]; omega, .boolean true, rfl, trivial⟩
  · cases h
    exact ⟨by simp only [List.length_cons]; omega, .boolean false, rfl, trivial⟩
  · rename_i more
    obtain ⟨⟨s, _⟩, htext, h⟩ := Option.map_eq_some_iff.1 h
    cases h
    obtain ⟨hlength, t, ht, _⟩ := goesWith_quotedText_byForm (Nat.le_of_succ_le hbound) htext
    refine ⟨Nat.le_succ_of_le hlength, .text t, ?_, trivial⟩
    rw [scalar, ht, Option.map_some]
  · rename_i hnull htrue hfalse hquote
    obtain ⟨hlength, u, hu, _⟩ := goesWith_number hbound h
    refine ⟨hlength, u, ?_, trivial⟩
    unfold scalar
    split
    · exact absurd rfl (hnull _)
    · exact absurd rfl (htrue _)
    · exact absurd rfl (hfalse _)
    · exact absurd rfl (hquote _)
    · exact hu

/-! ## Lists and tables -/

variable {R : Value → Value → Prop} {reader other : Reader Value}

/-- The items that the one reads and the other reads are related one by one. -/
theorem goesWith_items (h : GoesWith bound R reader other) :
    GoesWith bound (List.Forall₂ R) (items reader n) (items other n) := by
  induction n with
  | zero =>
    intro cs vs rest _ hread
    cases hread
  | succ n ih =>
    intro cs vs rest hbound hread
    have hblanks := length_skipBlanks_le cs
    rw [items, Option.bind_eq_bind, Option.bind_eq_some_iff] at hread
    obtain ⟨⟨v, after⟩, hv, hread⟩ := hread
    obtain ⟨hafter, u, hu, hR⟩ := h (Nat.le_trans hblanks hbound) hv
    dsimp only at hread
    rw [items, hu]
    split at hread
    · rename_i more hcomma
      have hmore := length_of_skipBlanks_eq hcomma
      simp only [Option.bind_eq_bind, Option.bind_eq_some_iff, Option.some.injEq, Prod.mk.injEq] at hread
      obtain ⟨⟨ws, _⟩, hws, rfl, rfl⟩ := hread
      obtain ⟨hrest, us, hus, hRs⟩ := ih (by omega) hws
      refine ⟨by dsimp only; omega, u :: us, ?_, .cons hR hRs⟩
      simp only [Option.bind_eq_bind, Option.bind_some, hcomma, hus]
    · rename_i more hclose
      have hmore := length_of_skipBlanks_eq hclose
      cases hread
      refine ⟨by omega, [u], ?_, .cons hR .nil⟩
      simp only [Option.bind_eq_bind, Option.bind_some, hclose]
    · cases hread

/-- A list is closed at once, or else has items. -/
theorem listOf_eq_some_iff {v : Value} :
    listOf reader cs = some (v, rest) ↔
      (skipBlanks cs = ']' :: rest ∧ v = .list []) ∨
        (∀ more, skipBlanks cs ≠ ']' :: more) ∧ ∃ vs, items reader (cs.length + 1) cs = some (vs, rest) ∧ v = .list vs := by
  unfold listOf
  split
  · rename_i more hclose
    simp [hclose, eq_comm, and_comm]
  · rename_i hopen
    simp only [Option.map_eq_some_iff, Prod.mk.injEq, Prod.exists]
    constructor
    · rintro ⟨vs, _, hvs, rfl, rfl⟩
      exact .inr ⟨hopen, vs, hvs, rfl⟩
    · rintro (⟨hclose, _⟩ | ⟨_, vs, hvs, rfl⟩)
      · exact absurd hclose (hopen _)
      · exact ⟨vs, rest, hvs, rfl, rfl⟩

theorem goesWith_listOf (h : GoesWith bound R reader other) :
    GoesWith bound (fun v u => ∃ vs us, v = .list vs ∧ u = .list us ∧ List.Forall₂ R vs us) (listOf reader)
      (listOf other) := by
  intro cs v rest hbound hread
  obtain ⟨hclose, rfl⟩ | ⟨hopen, vs, hvs, rfl⟩ := listOf_eq_some_iff.1 hread
  · have hrest := length_of_skipBlanks_eq hclose
    exact ⟨Nat.le_of_lt hrest, .list [], listOf_eq_some_iff.2 (.inl ⟨hclose, rfl⟩), [], [], rfl, rfl, .nil⟩
  · obtain ⟨hrest, us, hus, hR⟩ := goesWith_items h hbound hvs
    exact ⟨hrest, .list us, listOf_eq_some_iff.2 (.inr ⟨hopen, us, hus, rfl⟩), vs, us, rfl, rfl, hR⟩

/-- The same for entries: keys that go together stand before values that go together. -/
theorem goesWith_entries {m k : Manner} {K : String → String → Prop} {S : String × Value → String × Value → Prop}
    {readers others : String → Reader Value} (hkeys : GoesWith bound K (quotedText m) (quotedText k))
    (h : ∀ {key key'}, K key key' → GoesWith bound (fun v u => S (key, v) (key', u)) (readers key) (others key')) :
    GoesWith bound (List.Forall₂ S) (entries m readers n) (entries k others n) := by
  induction n with
  | zero =>
    intro cs vs rest _ hread
    cases hread
  | succ n ih =>
    intro cs vs rest hbound hread
    unfold entries at hread
    split at hread
    · rename_i quoted hquote
      have hquoted := length_of_skipBlanks_eq hquote
      simp only [Option.bind_eq_bind, Option.bind_eq_some_iff] at hread
      obtain ⟨⟨key, behindKey⟩, hkey, hread⟩ := hread
      obtain ⟨hbehindKey, key', hkey', hK⟩ := hkeys (by omega) hkey
      dsimp only at hread
      split at hread
      · rename_i behindColon hcolon
        have hbehindColon := length_of_skipBlanks_eq hcolon
        have hblanks := length_skipBlanks_le behindColon
        simp only [Option.bind_eq_some_iff] at hread
        obtain ⟨⟨v, behindValue⟩, hv, hread⟩ := hread
        obtain ⟨hbehindValue, u, hu, hS⟩ := h hK (by omega) hv
        dsimp only at hread
        split at hread
        · rename_i behindComma hcomma
          have hbehindComma := length_of_skipBlanks_eq hcomma
          simp only [Option.bind_eq_some_iff, Option.some.injEq, Prod.mk.injEq] at hread
          obtain ⟨⟨es, _⟩, hes, rfl, rfl⟩ := hread
          obtain ⟨hrest, ds, hds, hSs⟩ := ih (by omega) hes
          refine ⟨by dsimp only; omega, (key', u) :: ds, ?_, .cons hS hSs⟩
          simp only [entries, hquote, Option.bind_eq_bind, hkey', Option.bind_some, hcolon, hu, hcomma, hds]
        · rename_i behindBrace hclose
          have hbehindBrace := length_of_skipBlanks_eq hclose
          cases hread
          refine ⟨by omega, [(key', u)], ?_, .cons hS .nil⟩
          simp only [entries, hquote, Option.bind_eq_bind, hkey', Option.bind_some, hcolon, hu, hclose]
        · cases hread
      · cases hread
    · cases hread

/-- A table is closed at once, or else has entries. -/
theorem tableOf_eq_some_iff {m : Manner} {readers : String → Reader Value} {v : Value} :
    tableOf m readers cs = some (v, rest) ↔
      (skipBlanks cs = '\x7d' :: rest ∧ v = .table []) ∨
        (∀ more, skipBlanks cs ≠ '\x7d' :: more) ∧
          ∃ es, entries m readers (cs.length + 1) cs = some (es, rest) ∧ v = .table es := by
  unfold tableOf
  split
  · rename_i more hclose
    simp [hclose, eq_comm, and_comm]
  · rename_i hopen
    simp only [Option.map_eq_some_iff, Prod.mk.injEq, Prod.exists]
    constructor
    · rintro ⟨es, _, hes, rfl, rfl⟩
      exact .inr ⟨hopen, es, hes, rfl⟩
    · rintro (⟨hclose, _⟩ | ⟨_, es, hes, rfl⟩)
      · exact absurd hclose (hopen _)
      · exact ⟨es, rest, hes, rfl, rfl⟩

theorem goesWith_tableOf {m k : Manner} {K : String → String → Prop} {S : String × Value → String × Value → Prop}
    {readers others : String → Reader Value} (hkeys : GoesWith bound K (quotedText m) (quotedText k))
    (h : ∀ {key key'}, K key key' → GoesWith bound (fun v u => S (key, v) (key', u)) (readers key) (others key')) :
    GoesWith bound (fun v u => ∃ es ds, v = .table es ∧ u = .table ds ∧ List.Forall₂ S es ds) (tableOf m readers)
      (tableOf k others) := by
  intro cs v rest hbound hread
  obtain ⟨hclose, rfl⟩ | ⟨hopen, es, hes, rfl⟩ := tableOf_eq_some_iff.1 hread
  · have hrest := length_of_skipBlanks_eq hclose
    exact ⟨Nat.le_of_lt hrest, .table [], tableOf_eq_some_iff.2 (.inl ⟨hclose, rfl⟩), [], [], rfl, rfl, .nil⟩
  · obtain ⟨hrest, ds, hds, hS⟩ := goesWith_entries hkeys h hbound hes
    exact ⟨hrest, .table ds, tableOf_eq_some_iff.2 (.inr ⟨hopen, ds, hds, rfl⟩), es, ds, rfl, rfl, hS⟩

/-! ## Values -/

theorem scalar_of_bracket {c : Char} (hc : c = '[' ∨ c = '\x7b') (m : Manner) (cs : List Char) :
    scalar m (c :: cs) = none := by
  rcases hc with rfl | rfl <;> cases m <;> rfl

theorem value_of_scalar {found : Value × List Char} (h : scalar .exactly cs = some found) (m : Manner) (n : Nat) :
    value m n cs = scalar m cs := by
  unfold value
  split
  · rfl
  · split
    · rw [scalar_of_bracket (.inl rfl)] at h
      cases h
    · rw [scalar_of_bracket (.inr rfl)] at h
      cases h
    · rfl

/-- What is read as a value is a scalar, or else stands in a list or in a table. -/
theorem value_eq_some {m : Manner} {v : Value} (h : value m n cs = some (v, rest)) :
    scalar m cs = some (v, rest) ∨
      (∃ k more, n = k + 1 ∧ cs = '[' :: more ∧ listOf (value m k) more = some (v, rest)) ∨
      ∃ k more, n = k + 1 ∧ cs = '\x7b' :: more ∧ tableOf m (fun _ => value m k) more = some (v, rest) := by
  unfold value at h
  split at h
  · exact .inl h
  · split at h
    · exact .inr (.inl ⟨_, _, rfl, rfl, h⟩)
    · exact .inr (.inr ⟨_, _, rfl, rfl, h⟩)
    · exact .inl h

/-- **Wherever a value can be read exactly, its form is read up to the same place.** -/
theorem value_byForm : GoesWith bound (fun _ _ => True) (value .exactly n) (value .byForm bound) := by
  induction n generalizing bound with
  | zero =>
    intro cs v rest hbound h
    rw [value_of_scalar h]
    exact goesWith_scalar hbound h
  | succ n ih =>
    intro cs v rest hbound h
    obtain hscalar | ⟨k, more, hk, rfl, h⟩ | ⟨k, more, hk, rfl, h⟩ := value_eq_some h
    · rw [value_of_scalar hscalar]
      exact goesWith_scalar hbound hscalar
    · cases hk
      obtain ⟨bound, rfl⟩ := Nat.exists_eq_succ_of_ne_zero (n := bound) (by rintro rfl; cases hbound)
      obtain ⟨hrest, u, hu, _⟩ := goesWith_listOf ih (Nat.le_of_succ_le_succ hbound) h
      exact ⟨Nat.le_succ_of_le hrest, u, hu, trivial⟩
    · cases hk
      obtain ⟨bound, rfl⟩ := Nat.exists_eq_succ_of_ne_zero (n := bound) (by rintro rfl; cases hbound)
      obtain ⟨hrest, u, hu, _⟩ := goesWith_tableOf (S := fun _ _ => True) goesWith_quotedText_byForm (fun _ => ih)
        (Nat.le_of_succ_le_succ hbound) h
      exact ⟨Nat.le_succ_of_le hrest, u, hu, trivial⟩

theorem goesWith_value : GoesWith bound Eq (value .exactly n) (value .exactly n) :=
  fun _ v _ hbound h => ⟨(value_byForm hbound h).1, v, h, rfl⟩

theorem goesWith_unselected : GoesWith bound (fun _ u => .null = u) (value .exactly n) unselected := by
  intro cs v rest hbound h
  obtain ⟨hlength, u, hu, _⟩ := value_byForm (Nat.le_refl cs.length) h
  exact ⟨hlength, .null, by rw [unselected, hu, Option.map_some], rfl⟩

/-! ## Selections -/

/-- The part of a value that is asked for; the rest is null. -/
def Selection.of : Selection → Value → Value
  | .items each, .list vs => .list (vs.map each.of)
  | .fields keys, .table es => .table (es.map fun e => (e.1, if e.1 ∈ keys then e.2 else .null))
  | _, v => v

theorem Selection.of_number {v : Value} (h : IsNumber v) (selection : Selection) : selection.of v = v := by
  cases h <;> cases selection <;> rfl

/-- A scalar has no parts. -/
theorem Selection.of_scalar {m : Manner} {v : Value} (h : scalar m cs = some (v, rest)) (selection : Selection) :
    selection.of v = v := by
  unfold scalar at h
  split at h
  · cases h
    cases selection <;> rfl
  · cases h
    cases selection <;> rfl
  · cases h
    cases selection <;> rfl
  · obtain ⟨found, _, h⟩ := Option.map_eq_some_iff.1 h
    cases h
    cases selection <;> rfl
  · unfold number at h
    split at h
    · split at h <;> cases h
      cases selection <;> rfl
    · exact of_number (anyNumber_eq_some h).2 selection

theorem selected_of_scalar {found : Value × List Char} (h : scalar .exactly cs = some found) (selection : Selection)
    (n : Nat) : selected selection n cs = value .exactly n cs := by
  unfold selected
  split
  · rw [scalar_of_bracket (.inl rfl)] at h
    cases h
  · rw [scalar_of_bracket (.inr rfl)] at h
    cases h
  · rfl

theorem eq_map_of_forall₂ {α β : Type} {f : α → β} {as : List α} {bs : List β}
    (h : List.Forall₂ (fun a b => f a = b) as bs) : as.map f = bs := by
  rw [← List.forall₂_eq_eq_eq, List.forall₂_map_left_iff]
  exact h

/-- What is not asked for in parts is read as a whole. -/
theorem goesWith_of_eq {selection : Selection} {v : Value} (hbound : cs.length ≤ bound)
    (h : value .exactly n cs = some (v, rest)) (hselected : selected selection n cs = value .exactly n cs)
    (hof : selection.of v = v) :
    rest.length ≤ cs.length ∧ ∃ u, selected selection n cs = some (u, rest) ∧ selection.of v = u :=
  ⟨(goesWith_value hbound h).1, v, hselected.trans h, hof⟩

/-- Where a value can be read, what is asked for of it is read up to the same place. -/
theorem goesWith_selected (selection : Selection) :
    GoesWith bound (selection.of · = ·) (value .exactly n) (selected selection n) := by
  induction selection generalizing n bound with
  | whole => exact goesWith_value
  | items each ih =>
    intro cs v rest hbound h
    obtain hscalar | ⟨k, more, rfl, rfl, hlist⟩ | ⟨k, more, rfl, rfl, htable⟩ := value_eq_some h
    · exact goesWith_of_eq hbound h (selected_of_scalar hscalar _ n) (Selection.of_scalar hscalar _)
    · obtain ⟨hrest, u, hu, vs, us, rfl, rfl, hus⟩ := goesWith_listOf ih (Nat.le_of_succ_le hbound) hlist
      exact ⟨Nat.le_succ_of_le hrest, .list us, hu, congrArg Value.list (eq_map_of_forall₂ hus)⟩
    · refine goesWith_of_eq hbound h rfl ?_
      obtain ⟨_, rfl⟩ | ⟨_, es, _, rfl⟩ := tableOf_eq_some_iff.1 htable <;> rfl
  | fields keys =>
    intro cs v rest hbound h
    obtain hscalar | ⟨k, more, rfl, rfl, hlist⟩ | ⟨k, more, rfl, rfl, htable⟩ := value_eq_some h
    · exact goesWith_of_eq hbound h (selected_of_scalar hscalar _ n) (Selection.of_scalar hscalar _)
    · refine goesWith_of_eq hbound h rfl ?_
      obtain ⟨_, rfl⟩ | ⟨_, vs, _, rfl⟩ := listOf_eq_some_iff.1 hlist <;> rfl
    · have hvalues : ∀ {key key'}, key = key' →
          GoesWith more.length (fun v u => (key, if key ∈ keys then v else .null) = (key', u)) (value .exactly k)
            (if key' ∈ keys then value .exactly k else unselected) := by
        rintro key _ rfl
        by_cases hasked : key ∈ keys
        · simpa only [hasked, if_true, Prod.mk.injEq, true_and] using goesWith_value
        · simpa only [hasked, if_false, Prod.mk.injEq, true_and] using goesWith_unselected
      obtain ⟨hrest, u, hu, es, ds, rfl, rfl, hds⟩ :=
        goesWith_tableOf (S := fun e d => (e.1, if e.1 ∈ keys then e.2 else .null) = d) goesWith_quotedText hvalues
          (Nat.le_refl _) htable
      exact ⟨Nat.le_succ_of_le hrest, .table ds, hu, congrArg Value.table (eq_map_of_forall₂ hds)⟩

/-- **A text that is read as a value is read as a part of it** where only that part is asked for. -/
theorem parseSelected?_of_parse? {s : String} {v : Value} (h : parse? s = some v) (selection : Selection) :
    parseSelected? selection s = some (selection.of v) := by
  have hwhole : selected .whole nestingLimit = value .exactly nestingLimit := rfl
  rw [parse?, parseSelected?, hwhole] at h
  obtain ⟨⟨u, rest⟩, hread, h⟩ := Option.bind_eq_some_iff.1 h
  obtain ⟨_, w, hselected, rfl⟩ := goesWith_selected selection (Nat.le_refl _) hread
  dsimp only at h
  split at h
  · rename_i hend
    cases h
    simp only [parseSelected?, hselected, Option.bind_eq_bind, Option.bind_some, hend, if_true]
  · cases h

end GatewayRegistrar.Json
