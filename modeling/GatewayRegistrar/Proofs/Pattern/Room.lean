import GatewayRegistrar.Proofs.Pattern.Literal

/-!
# Room for patterns without operators

`Takes f n` says that a step of building succeeds wherever `n` bytes are left, and takes no more than these. Steps in a
row take together what each of them takes (`Takes.bind`). The blueprint of a pattern without operators is a row of texts
and conditions (`isRow_signs`), for which a state for each byte and each condition is enough (`IsRow.takes_states`). So
such a pattern is too large only if it is long (`ofText?_signs_of_short`).
-/

namespace GatewayRegistrar.Pattern

/-! ## Steps of building -/

/-- **The step succeeds wherever this much room is left**, and takes no more. -/
def Takes (f : BuildStep) (n : Nat) : Prop :=
  ∀ b : Building, b.room + n ≤ roomLimit → ∃ c, f b = some c ∧ c.room ≤ b.room + n

section Steps

variable {f g : BuildStep} {m n : Nat}

theorem Takes.mono (h : Takes f m) (hmn : m ≤ n) : Takes f n := fun b hb => by
  obtain ⟨c, hc, hroom⟩ := h b (by omega)
  exact ⟨c, hc, by omega⟩

/-- **Two steps take together what each of them takes.** -/
theorem Takes.bind (hf : Takes f m) (hg : Takes g n) : Takes (fun b => f b >>= g) (m + n) := fun b hb => by
  obtain ⟨c, hc, hroom⟩ := hf b (by omega)
  obtain ⟨d, hd, hroom'⟩ := hg c (by omega)
  exact ⟨d, by simp only [hc, Option.bind_eq_bind, Option.bind_some, hd], by omega⟩

theorem takes_some : Takes some 0 := fun b _ => ⟨b, rfl, Nat.le_refl _⟩

theorem takes_add (extra : Nat) : Takes (Building.add extra) (stateRoom + extra) := fun b hb =>
  ⟨_, if_pos (by omega), by simp only; omega⟩

theorem takes_plain : Takes Building.plain stateRoom := takes_add 0

theorem Takes.times (hf : Takes f m) : ∀ n, Takes (Building.times f n) (n * m)
  | 0 => takes_some.mono (Nat.zero_le _)
  | n + 1 => (hf.bind (Takes.times hf n)).mono (by rw [Nat.succ_mul]; omega)

end Steps

/-! ## Rows of texts and conditions -/

namespace Blueprint

/-- A text or a condition. -/
inductive IsPiece : Blueprint → Prop
  | text (cs : List Char) : IsPiece (.text cs)
  | look (l : Look) : IsPiece (.look l)

/-- Room for the states of a piece: a state for each byte, of which a character has at most four. -/
def pieceRoom : Blueprint → Nat
  | text cs => 4 * cs.length * stateRoom
  | _ => stateRoom

/-- Room for the states of several pieces. -/
def piecesRoom (ps : List Blueprint) : Nat := (ps.map pieceRoom).sum

/-- **A row of pieces**, for which there has to be this much room. -/
structure IsRow (b : Blueprint) (n : Nat) : Prop where
  form : b = .empty ∨ b.IsPiece ∨ b = .sequence b.parts
  pieces : ∀ p ∈ b.parts, p.IsPiece
  room : piecesRoom b.parts ≤ n

variable {b p : Blueprint} {ps : List Blueprint} {m n : Nat}

theorem IsPiece.parts_eq (h : p.IsPiece) : p.parts = [p] := by cases h <;> rfl

theorem IsPiece.isRow (h : p.IsPiece) (hn : p.pieceRoom ≤ n) : p.IsRow n := by
  refine ⟨.inr (.inl h), ?_, ?_⟩
  · rw [h.parts_eq]
    exact List.forall_mem_singleton.2 h
  · rwa [h.parts_eq, piecesRoom, List.map_singleton, List.sum_singleton]

theorem isRow_empty : empty.IsRow 0 := ⟨.inl rfl, fun _ h => (List.not_mem_nil h).elim, Nat.le_refl _⟩

theorem IsRow.mono (h : b.IsRow m) (hmn : m ≤ n) : b.IsRow n := ⟨h.form, h.pieces, Nat.le_trans h.room hmn⟩

/-- Texts that are joined stay pieces, and need as much room as before. -/
theorem joinTexts_pieces (h : ∀ p ∈ ps, p.IsPiece) :
    (∀ p ∈ joinTexts ps, p.IsPiece) ∧ piecesRoom (joinTexts ps) = piecesRoom ps := by
  induction ps with
  | nil => exact ⟨h, rfl⟩
  | cons p ps ih =>
    obtain ⟨hp, hps⟩ := List.forall_mem_cons.1 h
    obtain ⟨hpieces, hroom⟩ := ih hps
    simp only [piecesRoom, List.map_cons, List.sum_cons] at hroom ⊢
    cases hp with
    | look l =>
      have hjoin : joinTexts (look l :: ps) = look l :: joinTexts ps := by
        rw [joinTexts]
        exact fun _ h => by cases h
      rw [hjoin, List.map_cons, List.sum_cons, hroom]
      exact ⟨List.forall_mem_cons.2 ⟨.look l, hpieces⟩, rfl⟩
    | text cs =>
      rw [joinTexts]
      split
      · rename_i ds more hjoined
        rw [hjoined] at hpieces hroom
        refine ⟨List.forall_mem_cons.2 ⟨.text _, (List.forall_mem_cons.1 hpieces).2⟩, ?_⟩
        simp only [List.map_cons, List.sum_cons, pieceRoom, List.length_append] at hroom ⊢
        rw [← hroom, Nat.mul_add, Nat.add_mul, Nat.add_assoc]
      · refine ⟨List.forall_mem_cons.2 ⟨.text cs, hpieces⟩, ?_⟩
        rw [List.map_cons, List.sum_cons, hroom]

theorem isRow_inSequence {a b : Blueprint} (ha : a.IsRow m) (hb : b.IsRow n) : (inSequence [a, b]).IsRow (m + n) := by
  have hparts : ∀ p ∈ a.parts ++ b.parts, p.IsPiece := List.forall_mem_append.2 ⟨ha.pieces, hb.pieces⟩
  obtain ⟨hpieces, hroom⟩ := joinTexts_pieces hparts
  have hle : piecesRoom (joinTexts (a.parts ++ b.parts)) ≤ m + n := by
    rw [hroom, piecesRoom, List.map_append, List.sum_append]
    exact Nat.add_le_add ha.room hb.room
  rw [inSequence, List.flatMap_cons, List.flatMap_singleton]
  split
  · exact isRow_empty.mono (Nat.zero_le _)
  · rename_i p hjoined
    rw [hjoined] at hpieces hle
    rw [piecesRoom, List.map_singleton, List.sum_singleton] at hle
    exact (hpieces p List.mem_cons_self).isRow hle
  · exact ⟨.inr (.inr rfl), hpieces, hle⟩

/-! ## States of rows -/

theorem length_utf8Bytes_le (n : Nat) : (utf8Bytes n).length ≤ 4 := by
  unfold utf8Bytes
  repeat' split
  all_goals simp only [List.length_cons, List.length_nil]; omega

theorem length_wordOf_le (d : Direction) (cs : List Char) : (wordOf d cs).length ≤ 4 * cs.length := by
  have hbytes : (cs.flatMap fun c => utf8Bytes c.toNat).length ≤ 4 * cs.length := by
    induction cs with
    | nil => exact Nat.zero_le _
    | cons c cs ih =>
      have := length_utf8Bytes_le c.toNat
      rw [List.flatMap_cons, List.length_append, List.length_cons]
      omega
  cases d with
  | forwards => exact hbytes
  | backwards => rwa [wordOf, List.length_reverse]

variable (d : Direction)

theorem IsPiece.takes_states (h : p.IsPiece) : Takes (p.states d) p.pieceRoom := by
  cases h with
  | text cs => exact (takes_plain.times _).mono (Nat.mul_le_mul_right _ (length_wordOf_le d cs))
  | look l => exact takes_plain

theorem takes_statesInOrder (h : ∀ p ∈ ps, p.IsPiece) : Takes (statesInOrder d ps) (piecesRoom ps) := by
  induction ps with
  | nil => exact takes_some
  | cons p ps ih =>
    obtain ⟨hp, hps⟩ := List.forall_mem_cons.1 h
    exact (hp.takes_states d).bind (ih hps)

theorem takes_statesFromEnd (h : ∀ p ∈ ps, p.IsPiece) : Takes (statesFromEnd d ps) (piecesRoom ps) := by
  induction ps with
  | nil => exact takes_some
  | cons p ps ih =>
    obtain ⟨hp, hps⟩ := List.forall_mem_cons.1 h
    exact ((ih hps).bind (hp.takes_states d)).mono (Nat.le_of_eq (Nat.add_comm _ _))

/-- **The states of a row**: those of its pieces, or a single one where there are none. -/
theorem IsRow.takes_states (h : b.IsRow n) : Takes (b.states d) (stateRoom + n) := by
  have hroom := h.room
  rcases h.form with rfl | hpiece | hsequence
  · exact takes_plain.mono (Nat.le_add_right _ _)
  · rw [hpiece.parts_eq, piecesRoom, List.map_singleton, List.sum_singleton] at hroom
    exact (hpiece.takes_states d).mono (by omega)
  · rw [hsequence]
    cases d with
    | forwards => exact (takes_statesInOrder .forwards h.pieces).mono (by omega)
    | backwards => exact (takes_statesFromEnd .backwards h.pieces).mono (by omega)

/-- The room for the parts of an automaton that do not depend on what it reads. -/
def frameRoom : Nat := 7 * stateRoom + 16

theorem Takes.captureStates {f : BuildStep} (hf : Takes f n) : Takes (captureStates d f) (n + 2 * stateRoom) := by
  cases d with
  | forwards =>
    have hends := takes_plain.bind (hf.bind takes_plain)
    exact hends.mono (by omega)
  | backwards => exact hf.mono (Nat.le_add_right _ _)

/-- **The automata for a row fit** when there is room for the row and for what stands around it. -/
theorem IsRow.isSome_automaton? (h : b.IsRow n) (hn : frameRoom + n ≤ roomLimit) : (b.automaton? d).isSome = true := by
  have hlead : Takes (fun c => if b.isAnchored d then c.plain else c.fork 2 >>= fun c => c.plain >>= Building.branch 1)
      (3 * stateRoom + 16) := by
    split
    · exact takes_plain.mono (by decide)
    · exact ((takes_add 8).bind (takes_plain.bind (takes_add 8))).mono (by decide)
  have hwhole := hlead.bind ((Takes.captureStates d (h.takes_states d)).bind takes_plain)
  obtain ⟨c, hc, _⟩ := hwhole {} (by simp only [frameRoom] at hn; simp only; omega)
  have hautomaton : b.automaton? d = some c := by
    rw [← hc, automaton?]
    split <;> rfl
  rw [hautomaton, Option.isSome_some]

end Blueprint

/-! ## Signs -/

open Blueprint

theorem isRow_sign (c : Char) : (signNode c).blueprint.IsRow (4 * stateRoom) := by
  unfold signNode
  split
  · rw [Node.blueprint]
    exact (IsPiece.look .startText).isRow (by decide)
  · split
    · rw [Node.blueprint]
      exact (IsPiece.look .endText).isRow (by decide)
    · have htext : ofSet (.singleton c) = .text [c] := by simp [ofSet, CodeSet.singleton]
      rw [Node.blueprint, htext]
      exact (IsPiece.text [c]).isRow (Nat.le_refl _)

/-- **The blueprint of signs** that stand one behind the other is a row. -/
theorem isRow_signs (cs : List Char) :
    (Node.concat (cs.map signNode)).blueprint.IsRow (4 * stateRoom * cs.length) := by
  induction cs with
  | nil =>
    rw [List.map_nil, Node.concat, Node.blueprint]
    exact isRow_empty
  | cons c cs ih =>
    cases cs with
    | nil => exact isRow_sign c
    | cons d cs =>
      rw [List.map_cons, List.map_cons, Node.concat, Node.blueprint]
      · refine (isRow_inSequence (isRow_sign c) ih).mono (Nat.le_of_eq ?_)
        rw [List.length_cons (a := c), Nat.mul_succ, Nat.add_comm]
      · exact List.cons_ne_nil _ _

/-- **A text without operators is a pattern**, unless it is very long. -/
theorem ofText?_signs_of_short {source : String} (h : ∀ c ∈ source.toList, c ∉ operatorSigns)
    (hlength : frameRoom + 4 * stateRoom * source.toList.length ≤ roomLimit) :
    ofText? source = .ok ⟨source, .concat (source.toList.map signNode)⟩ := by
  have hrow := isRow_signs source.toList
  have hfits : (Node.concat (source.toList.map signNode)).fits = true := by
    rw [Node.fits, hrow.isSome_automaton? .forwards hlength, hrow.isSome_automaton? .backwards hlength]
    rfl
  rw [ofText?, nodeOfText?_signs h]
  exact if_pos hfits

end GatewayRegistrar.Pattern
