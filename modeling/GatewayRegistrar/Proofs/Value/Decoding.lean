import GatewayRegistrar.Proofs.Value.Entries
import GatewayRegistrar.Registration.Record

/-!
# Decoding what was encoded

Texts, numbers, lists and maps are decoded from their values; a map comes out in its normal form, whatever the order of
its entries was (`mapOf_table`). A table is read as a record where its entries stand as the fields of the record do
(`recordEntries_table`).
-/

namespace GatewayRegistrar

/-- What goes on after a result has one. -/
theorem exists_ok_of_bind {ε α β : Type} {x : Except ε α} {f : α → Except ε β} {b : β} (h : x >>= f = .ok b) :
    ∃ a, x = .ok a ∧ f a = .ok b := by
  cases x with
  | error e => cases h
  | ok a => exact ⟨a, rfl, h⟩

theorem mapM_ok {ε α β γ : Type} {f : β → Except ε γ} {g : α → β} {h : α → γ} (hf : ∀ a, f (g a) = .ok (h a))
    (as : List α) : (as.map g).mapM f = .ok (as.map h) := by
  induction as with
  | nil => rfl
  | cons a as ih =>
    rw [List.map_cons, List.mapM_cons, hf, ih]
    rfl

/-- A list of texts is decoded. -/
theorem listOf_ofTexts (ts : List String) : Decoder.listOf .text (.ofTexts ts) = .ok ts := by
  have h := mapM_ok (f := Decoder.text) (g := Value.text) (h := id) (fun _ => rfl) ts
  rwa [List.map_id] at h

/-- **A map is decoded to its normal form.** -/
theorem mapOf_table {α : Type} {item : Decoder α} {f : α → Value} (hf : ∀ a, item (f a) = .ok a)
    (es : List (String × α)) : Decoder.mapOf item (.table (es.map fun e => (e.1, f e.2))) = .ok (sortEntries es) := by
  have h := mapM_ok (f := fun e : String × Value => (do return (e.1, ← item e.2) : Except DecodeFault _))
    (g := fun e : String × α => (e.1, f e.2)) (h := id) (fun e => by simp only [hf]; rfl) es
  rw [List.map_id] at h
  simp only [Decoder.mapOf, h]
  rfl

theorem textMap_ofTextTable (es : List (String × String)) : Policy.textMap (.ofTextTable es) = .ok (sortEntries es) :=
  mapOf_table (f := Value.text) (fun _ => rfl) es

/-- Every map that is decoded is in normal form. -/
theorem ascending_of_mapOf {α : Type} {item : Decoder α} {v : Value} {es : List (String × α)}
    (h : Decoder.mapOf item v = .ok es) : Ascending es := by
  unfold Decoder.mapOf at h
  split at h
  · obtain ⟨ds, _, hes⟩ := exists_ok_of_bind h
    cases hes
    exact ascending_sortEntries ds
  · cases h

theorem port_toNat (p : UInt16) : Decoder.port (.integer p.toNat) = .ok p := by
  have hlt := p.toNat_lt
  rw [Decoder.port, if_pos ⟨by omega, by omega⟩]
  simp

/-! ## Records -/

theorem requiredField_ok {α : Type} {key : String} {item : Decoder α} {entries : List (String × Value)} {v : Value}
    {a : α} (hentry : entryOf? key entries = some v) (h : item v = .ok a) : requiredField key item entries = .ok a := by
  rw [requiredField, hentry]
  exact h

/-- Entries that stand as the fields of a record do, each with a value that its field allows. -/
inductive StandAsFields : FieldChecks → List (String × Value) → Prop
  | nil : StandAsFields [] []
  | cons {α : Type} {key : String} {item : Decoder α} {v : Value} {a : α} {fields : FieldChecks}
      {entries : List (String × Value)} :
      item v = .ok a → StandAsFields fields entries → StandAsFields ((key, item.check) :: fields) ((key, v) :: entries)

/-- Entries that stand as some of the fields have no fault, as long as no key stands twice. -/
theorem checkEntries_ok {fields among : FieldChecks} {seen : List String} {entries : List (String × Value)}
    (h : StandAsFields among entries) (hamong : ∀ f ∈ among, entryOf? f.1 fields = some f.2)
    (hkeys : (seen ++ among.map (·.1)).Nodup) : checkEntries fields seen entries = .ok () := by
  induction h generalizing seen with
  | nil => rfl
  | @cons α key item v a among entries hitem _ ih =>
    rw [List.map_cons, List.nodup_middle] at hkeys
    have hnew : key ∉ seen := fun hseen => (List.nodup_cons.1 hkeys).1 (List.mem_append_left _ hseen)
    have hrest := ih (fun f hf => hamong f (List.mem_cons_of_mem _ hf)) (show ((key :: seen) ++ _).Nodup from hkeys)
    have hcheck : item.check v = .ok () := by
      rw [Decoder.check, hitem]
      rfl
    simp only [checkEntries, hamong _ List.mem_cons_self, hnew, ↓reduceIte, hcheck]
    exact hrest

/-- **A table is read as a record** where its entries stand as the fields do. -/
theorem recordEntries_table {record : String} {required : Nat} {strict : Bool} {fields : FieldChecks}
    {entries : List (String × Value)} (hkeys : (fields.map (·.1)).Nodup) (h : StandAsFields fields entries) :
    recordEntries record required strict fields (.table entries) = .ok entries := by
  have hcheck : checkEntries fields [] entries = .ok () :=
    checkEntries_ok h (fun _ hf => (singleValued_of_nodup hkeys).entryOf?_eq_some_iff.2 hf) hkeys
  rw [recordEntries, hcheck]
  rfl

end GatewayRegistrar
