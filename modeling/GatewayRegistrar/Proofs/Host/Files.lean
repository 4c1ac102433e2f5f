import GatewayRegistrar.Host.Files
import GatewayRegistrar.Proofs.Value.Decoding

/-!
# Files that have been written

A text is put at one place, which is no directory, below a directory to which the path leads (`target_eq_ok`). Every
way through the files that was open stays open (`follow_put`), so **a path at which a text was written leads to that
text** (`readText_of_writeText`).
-/

namespace GatewayRegistrar.Files

variable {fs fs' : Files} {here place : Place} {path text : String} {n : Node}

theorem lookup_put (hplace : place ≠ []) (n : Node) (q : Place) :
    (fs.put place n).lookup q = if q = place then some n else fs.lookup q := by
  by_cases hq : q = place
  · subst hq
    simp [lookup, put, hplace]
  · -- another place is found behind the new one, among those that are left
    have hfind : ∀ nodes : List (Place × Node),
        (nodes.filter (·.1 ≠ place)).find? (·.1 = q) = nodes.find? (·.1 = q) := by
      intro nodes
      rw [List.find?_filter]
      congr
      funext e
      by_cases he : e.1 = q <;> simp [he, hq]
    have hne : (decide (place = q)) = false := by simp [Ne.symm hq]
    simp only [lookup, put, hq, ↓reduceIte, List.find?_cons, hne, hfind]

/-- What is put where there is no directory leaves every directory in its place. -/
theorem lookup_put_directory (hplace : place ≠ []) (hput : fs.lookup place ≠ some .directory) (n : Node) {q : Place}
    (hq : fs.lookup q = some .directory) : (fs.put place n).lookup q = some .directory := by
  have hne : q ≠ place := by
    rintro rfl
    exact hput hq
  rw [lookup_put hplace, if_neg hne, hq]

theorem isSome_lookup_put (hplace : place ≠ []) (n : Node) {q : Place} (hq : (fs.lookup q).isSome) :
    ((fs.put place n).lookup q).isSome := by
  rw [lookup_put hplace]
  split
  · rfl
  · exact hq

/-- A way that is open stays open where no directory is lost, and nothing disappears. -/
theorem follow_mono (hdirectory : ∀ q, fs.lookup q = some .directory → fs'.lookup q = some .directory)
    (hsome : ∀ q, (fs.lookup q).isSome → (fs'.lookup q).isSome) {parts : List String} {q : Place}
    (h : fs.follow here parts = .ok q) : fs'.follow here parts = .ok q := by
  induction parts generalizing here with
  | nil => exact h
  | cons part rest ih =>
    unfold follow at h ⊢
    split at h
    · cases h
    · cases h
    · rename_i hhere
      rw [hdirectory here hhere]
      dsimp only
      split at h
      · rename_i hstays
        rw [if_pos hstays]
        exact ih h
      · rename_i hstays
        rw [if_neg hstays]
        split at h
        · rename_i hup
          rw [if_pos hup]
          exact ih h
        · rename_i hup
          rw [if_neg hup]
          split at h
          · rename_i hthere
            rw [if_pos (hsome _ hthere)]
            exact ih h
          · cases h

/-- **A way that is open stays open** when something is put where there is no directory. -/
theorem follow_put (hplace : place ≠ []) (hput : fs.lookup place ≠ some .directory) (n : Node) {parts : List String}
    {q : Place} (h : fs.follow here parts = .ok q) : (fs.put place n).follow here parts = .ok q :=
  follow_mono (fun _ => lookup_put_directory hplace hput n) (fun _ => isSome_lookup_put hplace n) h

/-- A path that leads to a text leads somewhere. -/
theorem has_of_readText (h : fs.readText path = .ok text) : fs.has path = true := by
  obtain ⟨place, hfollow, _⟩ := exists_ok_of_bind h
  rw [has, hfollow]
  rfl

theorem follow_append (fs : Files) (here : Place) (parts more : List String) :
    fs.follow here (parts ++ more) = (fs.follow here parts).bind (fs.follow · more) := by
  induction parts generalizing here with
  | nil => rfl
  | cons part rest ih =>
    simp only [List.cons_append, follow]
    split
    · rfl
    · rfl
    · simp only [ih]
      split
      · rfl
      · split
        · rfl
        · split
          · rfl
          · rfl

/-- What the place is to which a text is written. -/
theorem target_eq_ok (h : fs.target path = .ok place) : ∃ here name,
    pathParts path = (pathParts path).dropLast ++ [name] ∧
    fs.follow (fs.start path) (pathParts path).dropLast = .ok here ∧ fs.lookup here = some .directory ∧
    staysHere name = false ∧ name ≠ ".." ∧ fs.lookup (here ++ [name]) ≠ some .directory ∧ place = here ++ [name] := by
  obtain ⟨here, hfollow, h⟩ := exists_ok_of_bind h
  split at h
  · cases h
  · cases h
  · rename_i hdirectory
    dsimp only at h
    split at h
    · cases h
    · rename_i hname
      simp only [not_or, ne_eq, not_not] at hname
      obtain ⟨hstays, hup, hsame⟩ := hname
      rw [hsame] at hfollow hstays hup h
      refine ⟨here, (pathParts path).getLast?.getD "", ?_⟩
      split at h
      · cases h
      · rename_i hfree
        split at h
        · cases h
        · -- the name is not empty, so there is a last part
          have hparts : pathParts path = (pathParts path).dropLast ++ [(pathParts path).getLast?.getD ""] := by
            cases hlast : (pathParts path).getLast? with
            | none => simp [hlast, staysHere] at hstays
            | some name =>
              obtain ⟨before, heq⟩ := List.getLast?_eq_some_iff.1 hlast
              rw [heq, List.dropLast_concat, Option.getD_some]
          exact ⟨hparts, hfollow, hdirectory, by simpa using hstays, hup, hfree, (Except.ok.inj h).symm⟩

theorem writeText_eq_ok_iff : fs.writeText path text = .ok fs' ↔
    ∃ place, fs.target path = .ok place ∧ fs.put place (.file (some text)) = fs' := by
  unfold writeText
  cases fs.target path <;> simp [bind, Except.bind, pure, Except.pure]

/-- **A path at which a text was written leads to that text.** -/
theorem readText_of_writeText (h : fs.writeText path text = .ok fs') :
    fs'.has path = true ∧ fs'.readText path = .ok text := by
  obtain ⟨place, htarget, rfl⟩ := writeText_eq_ok_iff.1 h
  obtain ⟨here, name, hparts, hfollow, hdirectory, hstays, hup, hfree, rfl⟩ := target_eq_ok htarget
  have hplace : here ++ [name] ≠ [] := by simp
  have hway := follow_put hplace hfree (.file (some text)) hfollow
  have hlast : (fs.put (here ++ [name]) (.file (some text))).follow here [name] = .ok (here ++ [name]) := by
    simp [follow, lookup_put_directory hplace hfree _ hdirectory, hstays, hup, lookup_put hplace]
  have hend : (fs.put (here ++ [name]) (.file (some text))).follow (fs.start path) (pathParts path) =
      .ok (here ++ [name]) := by
    rw [hparts, follow_append, hway]
    exact hlast
  have hstart : (fs.put (here ++ [name]) (.file (some text))).start path = fs.start path := rfl
  refine ⟨?_, ?_⟩
  · rw [has, hstart, hend]
    rfl
  · simp [readText, hstart, hend, lookup_put hplace, bind, Except.bind]

end GatewayRegistrar.Files
