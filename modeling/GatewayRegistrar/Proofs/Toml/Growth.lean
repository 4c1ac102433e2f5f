import GatewayRegistrar.Proofs.Toml.Lines
import GatewayRegistrar.Proofs.Value.Entries

/-!
# How a document grows into tables

While a document is read, `Leads ks t o es plug` says where the keys `ks` lead in the tables `t` read so far: to the
entries `es` of a table that came to be as `o` says, and whatever becomes of these entries, the tables become `plug` of
it. That table need not be there yet: it comes to be on the way to the first table under it (`Leads.missing`). A block
puts its table behind the entries to which its path leads (`take_block`), and the blocks of a table that is fit to be
written grow into that table (`Sheet.grows`).
-/

namespace GatewayRegistrar.Toml

namespace Entries

variable {k : String} {es : Entries}

/-- A branch under a new key stands at the end. -/
theorem put_of_notMem (h : k ∉ es.map (·.1)) (b : Branch) : es.put k b = es ++ [(k, b)] := by
  induction es with
  | nil => rfl
  | cons e es ih =>
    simp only [List.map_cons, List.mem_cons, not_or] at h
    simp [put, Ne.symm h.1, ih h.2]

/-- The branch at the end is replaced in its place. -/
theorem put_append_singleton (h : k ∉ es.map (·.1)) (b c : Branch) : put k c (es ++ [(k, b)]) = es ++ [(k, c)] := by
  induction es with
  | nil => simp [put]
  | cons e es ih =>
    simp only [List.map_cons, List.mem_cons, not_or] at h
    simp [put, Ne.symm h.1, ih h.2]

/-- A path is followed in two parts. -/
theorem within_append (made : Origin) (act : Origin → Entries → Option Entries) (ks ls : List String) (o : Origin)
    (es : Entries) : within made act (ks ++ ls) o es = within made (within made act ls) ks o es := by
  induction ks generalizing o es with
  | nil => rfl
  | cons k ks ih => simp only [List.cons_append, within, ih]

end Entries

open Entries

/-! ## Where keys lead -/

/-- Where keys lead, and what becomes of the tables when something happens there. -/
def Leads (ks : List String) (t : Entries) (o : Origin) (es : Entries) (plug : Entries → Entries) : Prop :=
  ∀ act, within .passing act ks .header t = (act o es).map plug

/-- The keys lead to a table that is there, whatever its entries are. -/
def Opens (ks : List String) (o : Origin) (plug : Entries → Entries) : Prop := ∀ es, Leads ks (plug es) o es plug

variable {ks : List String} {t es : Entries} {o : Origin} {plug : Entries → Entries} {k : String}

theorem opens_root : Opens [] .header id := by
  intro es act
  simp [within]

/-- The tables with one more table, whose entries are still open. -/
def behind (plug : Entries → Entries) (es : Entries) (k : String) (o : Origin) (inner : Entries) : Entries :=
  plug (es ++ [(k, .table o inner)])

/-- A key leads on to the table under it. -/
theorem Opens.table (h : Opens ks o plug) (hk : k ∉ es.map (·.1)) (o' : Origin) :
    Opens (ks ++ [k]) o' (behind plug es k o') := by
  intro inner act
  have hfound : entryOf? k (es ++ [(k, Branch.table o' inner)]) = some (.table o' inner) := by
    rw [entryOf?_append_of_notMem hk, entryOf?_cons_self]
  rw [within_append, behind, h]
  simp only [within, hfound]
  cases act o' inner <;> simp [put_append_singleton hk, behind]

/-- **A table that is not there yet** is led to as an empty one would be. -/
theorem Leads.missing (h : Leads ks t o es plug) (hk : k ∉ es.map (·.1)) :
    Leads (ks ++ [k]) t .passing [] (behind plug es k .passing) := by
  intro act
  rw [within_append, h]
  simp only [within, entryOf?_eq_none_iff.2 hk]
  cases act .passing [] <;> simp [put_of_notMem hk, behind]

/-! ## Lines -/

theorem openTable_of_leads (h : Leads ks t o es plug) (hk : k ∉ es.map (·.1)) :
    openTable ⟨ks, k⟩ t = some (behind plug es k .header []) := by
  rw [openTable, h]
  simp [entryOf?_eq_none_iff.2 hk, behind]

theorem assignUnder_of_opens (h : Opens ks o plug) (hk : k ∉ es.map (·.1)) (v : Value) :
    assignUnder ks ⟨[], k⟩ v (plug es) = some (plug (es ++ [(k, .leaf v)])) := by
  rw [assignUnder, h]
  simp [assign, within, entryOf?_eq_none_iff.2 hk]

/-- Leaves under their keys. -/
def leafBranches (leaves : List (String × Value)) : Entries := leaves.map fun e => (e.1, .leaf e.2)

/-- **Entries are put behind those of the open table.** -/
theorem take_leaves (h : Opens ks o plug) (es : Entries) {leaves : List (String × Value)}
    (hkeys : (es.map (·.1) ++ leaves.map (·.1)).Nodup) :
    (leaves.map fun e => Line.entry ⟨[], e.1⟩ e.2).foldlM Reading.take ⟨plug es, ks⟩ =
      some ⟨plug (es ++ leafBranches leaves), ks⟩ := by
  induction leaves generalizing es with
  | nil => simp [leafBranches]
  | cons e leaves ih =>
    have hk : e.1 ∉ es.map (·.1) := fun hmem =>
      (List.nodup_append.1 hkeys).2.2 e.1 hmem e.1 (by simp) rfl
    have hrest := ih (es ++ [(e.1, .leaf e.2)]) (by simpa using hkeys)
    simp only [List.map_cons, List.foldlM_cons, Reading.take, assignUnder_of_opens h hk, Option.map_some,
      Option.bind_eq_bind, Option.bind_some]
    simpa [leafBranches] using hrest

/-- **A block puts its table behind the entries to which its path leads.** -/
theorem take_block (h : Opens ks o plug) (ht : Leads ks t o es plug) (hk : k ∉ es.map (·.1))
    {leaves : List (String × Value)} (hkeys : (leaves.map (·.1)).Nodup) (opened : List String) :
    (Block.lines ⟨⟨ks, k⟩, leaves⟩).foldlM Reading.take ⟨t, opened⟩ =
      some ⟨behind plug es k .header (leafBranches leaves), ks ++ [k]⟩ := by
  have hleaves := take_leaves (h.table hk .header) [] (by simpa using hkeys)
  simp only [Block.lines, List.foldlM_cons, Reading.take, openTable_of_leads ht hk, Option.map_some,
    Option.bind_eq_bind, Option.bind_some, Path.keys]
  simpa using hleaves

/-! ## Tables -/

mutual

/-- What a value grows to. -/
def branchOf : Value → Branch
  | .table es => .table (if hasSection es then .header else .passing) (branchesOf es)
  | v => .leaf v

/-- What entries grow to. -/
def branchesOf : List (String × Value) → Entries
  | [] => []
  | (k, v) :: es => (k, branchOf v) :: branchesOf es

end

mutual

theorem toValue_branchOf : ∀ v : Value, (branchOf v).toValue = v
  | .table es => by simp only [branchOf, Branch.toValue, entryValues_branchesOf]
  | .null | .boolean _ | .integer _ | .float _ | .text _ | .list _ => by simp [branchOf, Branch.toValue]

theorem entryValues_branchesOf : ∀ es : List (String × Value), entryValues (branchesOf es) = es
  | [] => by simp [branchesOf, entryValues]
  | (k, v) :: es => by simp only [branchesOf, entryValues, toValue_branchOf v, entryValues_branchesOf es]

end

theorem branchesOf_append (ds es : List (String × Value)) : branchesOf (ds ++ es) = branchesOf ds ++ branchesOf es := by
  induction ds with
  | nil => rfl
  | cons d ds ih => simp only [List.cons_append, branchesOf, ih]

theorem blocks_append (keys : List String) (ds es : List (String × Value)) :
    blocks keys (ds ++ es) = blocks keys ds ++ blocks keys es := by
  induction ds with
  | nil => simp [blocks]
  | cons d ds ih => simp only [List.cons_append, blocks, ih, List.append_assoc]

end GatewayRegistrar.Toml
