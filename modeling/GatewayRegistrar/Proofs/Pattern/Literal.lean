import GatewayRegistrar.Pattern.Basic
import GatewayRegistrar.Proofs.Pattern.Search

/-!
# Patterns without operators

Most signs of a pattern stand for themselves, and two stand for the ends of the text. A pattern that has no other signs
is read sign by sign (`parts_signs`), never has a fault, and asks for its signs one behind the other
(`nodeOfText?_signs`). What can be found by it follows from what its matches span: the signs themselves
(`spans_literal`) and, where there are anchors, an end of the text (`matchesIn_literal_iff`). So it is found wherever it
occurs, or, with anchors, where a text begins with it, ends with it or is it.
-/

namespace GatewayRegistrar.Pattern

open Scan

/-! ## Reading -/

/-- The signs that begin something else than themselves or an anchor. -/
def operatorSigns : List Char := ['\\', '.', '+', '*', '?', '(', ')', '|', '[', '{']

/-- What a sign is read as, from a place on. -/
def signPart (p : Position) (c : Char) : Primitive :=
  if c = '^' then .assertion ⟨p, p.past c⟩ .startLine
  else if c = '$' then .assertion ⟨p, p.past c⟩ .endLine
  else .literal { span := ⟨p, p.past c⟩, char := c }

/-- What the signs of a text are read as. -/
def signTrees (p : Position) : List Char → List Tree
  | [] => []
  | c :: cs => (signPart p c).tree :: signTrees (p.past c) cs

/-- The place behind a text. -/
def pastAll (p : Position) : List Char → Position
  | [] => p
  | c :: cs => pastAll (p.past c) cs

/-- The cursor before a text, outside the verbose mode. -/
def cursorAt (cs : List Char) (p : Position) : Cursor := ⟨cs, p, false, []⟩

section Reading

variable {c : Char} {cs : List Char} {p : Position}

theorem primitive_sign (hc : c ∉ operatorSigns) (cs : List Char) (p : Position) :
    primitive.run (cursorAt (c :: cs) p) = .ok (signPart p c, cursorAt cs (p.past c)) := by
  simp only [operatorSigns, List.mem_cons, not_or] at hc
  unfold primitive signPart cursorAt
  simp only [hereChar, peek, bump, pastNext, StateT.run_bind, StateT.run_get, StateT.run_modify, pure_bind,
    StateT.run_pure, List.head?_cons, hc, imp_self, bind_pure_comp, StateT.run_map, map_pure]
  split <;> simp_all <;> rfl

theorem parts_sign (hc : c ∉ operatorSigns) (n : Nat) (done : List Tree) (cs : List Char) (p : Position) :
    (parts (n + 1) done).run (cursorAt (c :: cs) p) =
      (parts n (done ++ [(signPart p c).tree])).run (cursorAt cs (p.past c)) := by
  have hprimitive := primitive_sign hc cs p
  rw [parts]
  simp only [operatorSigns, List.mem_cons, not_or] at hc
  simp only [cursorAt] at hprimitive ⊢
  simp [skipBlanks, peek, hc, hprimitive]
  rfl

theorem parts_end (n : Nat) (done : List Tree) (p : Position) :
    (parts n done).run (cursorAt [] p) = .ok (done, cursorAt [] p) := by
  cases n with
  | zero => rfl
  | succ n =>
    rw [parts]
    rfl

/-- **Signs are read one by one.** -/
theorem parts_signs (hcs : ∀ c ∈ cs, c ∉ operatorSigns) {n : Nat} (hn : cs.length ≤ n) (done : List Tree)
    (p : Position) :
    (parts n done).run (cursorAt cs p) = .ok (done ++ signTrees p cs, cursorAt [] (pastAll p cs)) := by
  induction cs generalizing n done p with
  | nil => rw [parts_end, signTrees, List.append_nil, pastAll]
  | cons c cs ih =>
    obtain ⟨hc, hcs⟩ := List.forall_mem_cons.1 hcs
    obtain ⟨n, rfl⟩ := Nat.exists_eq_succ_of_ne_zero (Nat.ne_of_gt (Nat.lt_of_lt_of_le (Nat.succ_pos _) hn))
    rw [Nat.succ_eq_add_one, parts_sign hc, ih hcs (Nat.le_of_succ_le_succ hn), signTrees, pastAll, List.append_assoc,
      List.singleton_append]

theorem choice_signs (hcs : ∀ c ∈ cs, c ∉ operatorSigns) {n : Nat} (hn : cs.length ≤ n) (p : Position) :
    (choice (n + 1) []).run (cursorAt cs p) =
      .ok (sequenceTree ⟨p, pastAll p cs⟩ (signTrees p cs), cursorAt [] (pastAll p cs)) := by
  have hparts := parts_signs hcs hn [] p
  rw [choice]
  simp only [position, StateT.run_bind, StateT.run_get, pure_bind, StateT.run_pure, hparts]
  rfl

/-- **A text without operators is a sequence of its signs.** -/
theorem Tree.ofText?_signs (hcs : ∀ c ∈ cs, c ∉ operatorSigns) :
    Tree.ofText? cs = .ok (sequenceTree ⟨.start, pastAll .start cs⟩ (signTrees .start cs)) := by
  have hchoice := choice_signs hcs (n := 4 * cs.length + 3) (by omega) .start
  have hwhole : wholePattern.run (cursorAt cs .start) =
      .ok (sequenceTree ⟨.start, pastAll .start cs⟩ (signTrees .start cs), cursorAt [] (pastAll .start cs)) := by
    unfold wholePattern
    simp only [StateT.run_bind, StateT.run_get, pure_bind]
    show ((choice (4 * cs.length + 3 + 1) []).run (cursorAt cs .start) >>= _) = _
    rw [hchoice]
    rfl
  exact congrArg (Except.map (·.1)) hwhole

end Reading

/-! ## Meaning -/

/-- What a sign asks for. -/
def signNode (c : Char) : Node :=
  if c = '^' then .look .startText else if c = '$' then .look .endText else .symbol (.singleton c)

theorem meaning_sign (p : Position) (c : Char) : (signPart p c).tree.meaning {} = .ok (signNode c, {}) := by
  unfold signPart signNode
  split
  · rfl
  · split <;> rfl

theorem meanings_signs (p : Position) (cs : List Char) :
    meanings {} (signTrees p cs) = .ok (cs.map signNode, {}) := by
  induction cs generalizing p with
  | nil => rfl
  | cons c cs ih =>
    simp only [signTrees, meanings, meaning_sign, ih, bind, Except.bind]
    rfl

theorem tooDeep?_sign (p : Position) (c : Char) (depth : Nat) : (signPart p c).tree.tooDeep? depth = none := by
  unfold signPart
  split
  · rfl
  · split <;> rfl

theorem treesTooDeep?_signs (p : Position) (cs : List Char) (depth : Nat) :
    treesTooDeep? depth (signTrees p cs) = none := by
  induction cs generalizing p with
  | nil => rfl
  | cons c cs ih => rw [signTrees, treesTooDeep?, tooDeep?_sign, ih]; rfl

theorem meaning_sequenceTree (span : Span) (p : Position) (cs : List Char) :
    (sequenceTree span (signTrees p cs)).nestFault? = none ∧
      (sequenceTree span (signTrees p cs)).meaning {} = .ok (.concat (cs.map signNode), {}) := by
  match cs with
  | [] => exact ⟨rfl, rfl⟩
  | [c] => exact ⟨by rw [Tree.nestFault?, signTrees, signTrees, sequenceTree, tooDeep?_sign]; rfl, meaning_sign p c⟩
  | c :: d :: cs =>
    have hdeep := treesTooDeep?_signs p (c :: d :: cs) 1
    have hmeanings := meanings_signs p (c :: d :: cs)
    constructor
    · show ((spanBeyond? 0 span).or (treesTooDeep? 1 (signTrees p (c :: d :: cs)))).map _ = none
      rw [hdeep]
      rfl
    · show (Tree.concat span (signTrees p (c :: d :: cs))).meaning {} = _
      rw [Tree.meaning, hmeanings]
      rfl

/-- **A text without operators asks for its signs**, one behind the other. -/
theorem nodeOfText?_signs {source : String} (h : ∀ c ∈ source.toList, c ∉ operatorSigns) :
    nodeOfText? source = .ok (.concat (source.toList.map signNode)) := by
  obtain ⟨hnest, hmeaning⟩ := meaning_sequenceTree ⟨.start, pastAll .start source.toList⟩ .start source.toList
  unfold nodeOfText?
  rw [Tree.ofText?_signs h]
  simp only [bind, Except.bind, hnest, hmeaning]
  rfl

/-- Unless it is too large, a text without operators is a pattern. -/
theorem ofText?_signs {source : String} (h : ∀ c ∈ source.toList, c ∉ operatorSigns)
    (hsize : ofText? source ≠ .error .tooLarge) :
    ofText? source = .ok ⟨source, .concat (source.toList.map signNode)⟩ := by
  unfold ofText? at hsize ⊢
  rw [nodeOfText?_signs h] at hsize ⊢
  simp only at hsize ⊢
  split
  · rfl
  · rename_i hfits
    rw [if_neg hfits] at hsize
    exact absurd rfl hsize

/-! ## Searching -/

namespace Node

variable {t : Subject} {p q : Nat}

theorem spans_concat_cons (n : Node) (ns : List Node) :
    (concat (n :: ns)).Spans t p q ↔ ∃ m, n.Spans t p m ∧ (concat ns).Spans t m q := by
  cases ns with
  | nil => exact ⟨fun h => ⟨q, h, rfl⟩, fun ⟨m, h, hq⟩ => by rwa [show q = m from hq]⟩
  | cons n' ns => rfl

theorem spans_concat_append (ms ns : List Node) :
    (concat (ms ++ ns)).Spans t p q ↔ ∃ m, (concat ms).Spans t p m ∧ (concat ns).Spans t m q := by
  induction ms generalizing p with
  | nil => exact ⟨fun h => ⟨p, rfl, h⟩, fun ⟨m, hm, h⟩ => by rwa [← show m = p from hm]⟩
  | cons n ms ih =>
    simp only [List.cons_append, spans_concat_cons, ih]
    constructor
    · rintro ⟨m, hn, m', hms, hns⟩
      exact ⟨m', ⟨m, hn, hms⟩, hns⟩
    · rintro ⟨m', ⟨m, hn, hms⟩, hns⟩
      exact ⟨m, hn, m', hms, hns⟩

end Node

/-- The set of one character holds that character alone. -/
theorem holds_singleton_iff {c d : Char} : (CodeSet.singleton c).holds d = true ↔ d = c := by
  simp only [CodeSet.holds, CodeSet.holdsCode, CodeSet.singleton, List.any_cons, List.any_nil, Bool.or_false,
    Bool.and_eq_true, decide_eq_true_eq]
  exact ⟨fun h => Char.toNat_inj.1 (Nat.le_antisymm h.2 h.1), fun h => by rw [h]; exact ⟨Nat.le_refl _, Nat.le_refl _⟩⟩

section Searching

variable {cs text : List Char} {p q : Nat}

theorem behind?_ofText (s : String) (p : Nat) : (Subject.ofText s).behind? p = s.toList[p]? := by
  simp [Subject.ofText, Subject.behind?]

/-- **The matches of a literal text** are its occurrences. -/
theorem spans_literal {s : String} :
    (Node.concat (cs.map fun c => .symbol (.singleton c))).Spans (.ofText s) p q ↔
      q = p + cs.length ∧ cs <+: s.toList.drop p := by
  induction cs generalizing p with
  | nil => exact ⟨fun h => ⟨h, List.nil_prefix⟩, fun h => h.1⟩
  | cons c cs ih =>
    simp only [List.map_cons, Node.spans_concat_cons, ih, Node.Spans, behind?_ofText, holds_singleton_iff,
      List.length_cons]
    constructor
    · rintro ⟨_, ⟨rfl, d, hd, rfl⟩, rfl, hprefix⟩
      obtain ⟨hlt, hget⟩ := List.getElem?_eq_some_iff.1 hd
      rw [List.drop_eq_getElem_cons hlt, hget]
      exact ⟨by omega, List.prefix_cons_inj _ |>.2 hprefix⟩
    · rintro ⟨rfl, hprefix⟩
      have hlt : p < s.toList.length := by
        by_contra hge
        rw [List.drop_eq_nil_of_le (Nat.le_of_not_lt hge)] at hprefix
        exact absurd (List.prefix_nil.1 hprefix) (List.cons_ne_nil _ _)
      rw [List.drop_eq_getElem_cons hlt] at hprefix
      obtain ⟨hc, hrest⟩ := List.cons_prefix_cons.1 hprefix
      exact ⟨p + 1, ⟨rfl, s.toList[p], List.getElem?_eq_getElem hlt, hc.symm⟩, by omega, hrest⟩

theorem lookHolds_startText {s : String} (hp : p ≤ s.toList.length) :
    (Subject.ofText s).lookHolds .startText p = true ↔ p = 0 := by
  simp only [Subject.lookHolds, Subject.before?, Subject.ofText]
  cases p with
  | zero => simp
  | succ p =>
    have hlt : p < s.toList.length := hp
    simp [List.getElem?_eq_getElem hlt]

theorem lookHolds_endText {s : String} :
    (Subject.ofText s).lookHolds .endText p = true ↔ s.toList.length ≤ p := by
  simp only [Subject.lookHolds, behind?_ofText, Option.isNone_iff_eq_none, List.getElem?_eq_none_iff]

/-- An anchor before a text, if there is one, spans the beginning. -/
theorem spans_startAnchor {s : String} {atStart : Bool} (hp : p ≤ s.toList.length) :
    (Node.concat (if atStart then [.look .startText] else [])).Spans (.ofText s) p q ↔
      q = p ∧ (atStart = true → p = 0) := by
  cases atStart with
  | false => exact ⟨fun h => ⟨h, nofun⟩, fun h => h.1⟩
  | true => exact and_congr_right fun _ => (lookHolds_startText hp).trans ⟨fun h _ => h, fun h => h rfl⟩

/-- An anchor behind a text, if there is one, spans the end. -/
theorem spans_endAnchor {s : String} {atEnd : Bool} :
    (Node.concat (if atEnd then [.look .endText] else [])).Spans (.ofText s) p q ↔
      q = p ∧ (atEnd = true → s.toList.length ≤ p) := by
  cases atEnd with
  | false => exact ⟨fun h => ⟨h, nofun⟩, fun h => h.1⟩
  | true => exact and_congr_right fun _ => lookHolds_endText.trans ⟨fun h _ => h, fun h => h rfl⟩

/-- The nodes of a text with or without an anchor at either side. -/
def anchoredNodes (atStart atEnd : Bool) (cs : List Char) : List Node :=
  (if atStart then [.look .startText] else []) ++ cs.map (fun c => .symbol (.singleton c)) ++
    (if atEnd then [.look .endText] else [])

/-- **Where a text with anchors is found**: with nothing before or behind it where there is an anchor. -/
theorem matchesIn_literal_iff (atStart atEnd : Bool) (cs : List Char) (s : String) :
    (Node.concat (anchoredNodes atStart atEnd cs)).matchesIn s = true ↔
      ∃ front back, s.toList = front ++ cs ++ back ∧ (atStart = true → front = []) ∧ (atEnd = true → back = []) := by
  rw [Node.matchesIn_iff]
  simp only [anchoredNodes, Node.spans_concat_append, spans_literal, spans_endAnchor]
  constructor
  · rintro ⟨_, _, hp, _, ⟨m, hfirst, rfl, back, hback⟩, rfl, hlast⟩
    obtain ⟨rfl, hzero⟩ := (spans_startAnchor hp).1 hfirst
    refine ⟨s.toList.take m, back, ?_, fun h => by rw [hzero h, List.take_zero], fun h => ?_⟩
    · rw [List.append_assoc, hback, List.take_append_drop]
    · have hlength := congrArg List.length hback
      rw [List.length_append, List.length_drop] at hlength
      have := hlast h
      exact List.eq_nil_of_length_eq_zero (by omega)
  · rintro ⟨front, back, htext, hfront, hback⟩
    have hlength := congrArg List.length htext
    rw [List.length_append, List.length_append] at hlength
    have hp : front.length ≤ s.toList.length := by omega
    have hfirst : atStart = true → front.length = 0 := fun h => by rw [hfront h, List.length_nil]
    refine ⟨front.length, _, hp, _, ⟨front.length, (spans_startAnchor hp).2 ⟨rfl, hfirst⟩, rfl, back, ?_⟩, rfl,
      fun h => ?_⟩
    · rw [htext, List.append_assoc, List.drop_left]
    · rw [hback h, List.length_nil] at hlength
      omega

variable {s : String}

/-- A text without anchors is found wherever it occurs. -/
theorem matchesIn_infix_iff :
    (Node.concat (anchoredNodes false false cs)).matchesIn s = true ↔ cs <:+: s.toList := by
  rw [matchesIn_literal_iff]
  constructor
  · rintro ⟨front, back, htext, _, _⟩
    exact ⟨front, back, htext.symm⟩
  · rintro ⟨front, back, htext⟩
    exact ⟨front, back, htext.symm, nofun, nofun⟩

/-- Behind an anchor a text is found at the beginning. -/
theorem matchesIn_prefix_iff :
    (Node.concat (anchoredNodes true false cs)).matchesIn s = true ↔ cs <+: s.toList := by
  rw [matchesIn_literal_iff]
  constructor
  · rintro ⟨front, back, htext, hfront, _⟩
    rw [hfront rfl, List.nil_append] at htext
    exact ⟨back, htext.symm⟩
  · rintro ⟨back, htext⟩
    exact ⟨[], back, htext.symm, fun _ => rfl, nofun⟩

/-- Before an anchor a text is found at the end. -/
theorem matchesIn_suffix_iff :
    (Node.concat (anchoredNodes false true cs)).matchesIn s = true ↔ cs <:+ s.toList := by
  rw [matchesIn_literal_iff]
  constructor
  · rintro ⟨front, back, htext, _, hback⟩
    rw [hback rfl, List.append_nil] at htext
    exact ⟨front, htext.symm⟩
  · rintro ⟨front, htext⟩
    exact ⟨front, [], by rw [List.append_nil, htext], nofun, fun _ => rfl⟩

/-- Between two anchors a text is found in itself only. -/
theorem matchesIn_whole_iff :
    (Node.concat (anchoredNodes true true cs)).matchesIn s = true ↔ s.toList = cs := by
  rw [matchesIn_literal_iff]
  constructor
  · rintro ⟨front, back, htext, hfront, hback⟩
    rwa [hfront rfl, hback rfl, List.nil_append, List.append_nil] at htext
  · intro htext
    exact ⟨[], [], by rw [htext, List.nil_append, List.append_nil], fun _ => rfl, fun _ => rfl⟩

end Searching

end GatewayRegistrar.Pattern
