import GatewayRegistrar.Proofs.Host.Files
import Mathlib.Data.List.Induction

/-!
# Directories that are made

Making directories leaves everything in its place and adds nothing but directories, also where it comes to a fault
(`moreDirectories_makeWay`). So a path that led somewhere leads there still. A path may come to lead to something that
was there before, because it goes through a directory that was missing and leaves it again; without a `..` it does not
(`leadsTo_of_moreDirectories`).
-/

namespace GatewayRegistrar.Files

variable {fs fs' fs'' : Files} {here place q : Place} {path : String} {parts : List String} {n : Node}

/-- The path leads to this place. -/
def LeadsTo (fs : Files) (path : String) (place : Place) : Prop :=
  fs.follow (fs.start path) (pathParts path) = .ok place

theorem has_iff : fs.has path = true ↔ ∃ place, fs.LeadsTo path place := by
  unfold has LeadsTo
  cases fs.follow (fs.start path) (pathParts path) <;> simp [Except.isOk, Except.toBool]

/-- What stands anywhere stands there still, save at some places. -/
def KeepsBut (spared : Place → Prop) (fs fs' : Files) : Prop :=
  ∀ q n, fs.lookup q = some n → fs'.lookup q = some n ∨ spared q

/-! ## More directories -/

/-- The same files, and some more directories. -/
structure MoreDirectories (fs fs' : Files) : Prop where
  here_eq : fs'.here = fs.here
  keeps : ∀ {q n}, fs.lookup q = some n → fs'.lookup q = some n
  adds : ∀ {q n}, fs'.lookup q = some n → fs.lookup q = some n ∨ n = .directory

theorem MoreDirectories.refl (fs : Files) : MoreDirectories fs fs := ⟨rfl, id, .inl⟩

theorem MoreDirectories.trans (h : MoreDirectories fs fs') (h' : MoreDirectories fs' fs'') :
    MoreDirectories fs fs'' := by
  refine ⟨h'.here_eq.trans h.here_eq, fun hq => h'.keeps (h.keeps hq), fun hq => ?_⟩
  rcases h'.adds hq with hq | hnew
  · exact h.adds hq
  · exact .inr hnew

theorem MoreDirectories.keepsBut (h : MoreDirectories fs fs') (spared : Place → Prop) : KeepsBut spared fs fs' :=
  fun _ _ hq => .inl (h.keeps hq)

theorem MoreDirectories.follow (h : MoreDirectories fs fs') (hq : fs.follow here parts = .ok q) :
    fs'.follow here parts = .ok q := by
  refine follow_mono (fun _ => h.keeps) (fun p hp => ?_) hq
  obtain ⟨n, hn⟩ := Option.isSome_iff_exists.1 hp
  rw [h.keeps hn]
  rfl

theorem MoreDirectories.leadsTo (h : MoreDirectories fs fs') (hq : fs.LeadsTo path q) : fs'.LeadsTo path q := by
  have hstart : fs'.start path = fs.start path := by rw [start, start, h.here_eq]
  rw [LeadsTo, hstart]
  exact h.follow hq

theorem ne_nil_of_lookup_eq_none (h : fs.lookup place = none) : place ≠ [] := by
  rintro rfl
  cases h

/-- One directory more, where there was nothing. -/
theorem moreDirectories_put (h : fs.lookup place = none) : MoreDirectories fs (fs.put place .directory) := by
  have hplace := ne_nil_of_lookup_eq_none h
  refine ⟨rfl, fun {q n} hq => ?_, fun {q n} hq => ?_⟩
  · have hne : q ≠ place := by
      rintro rfl
      rw [h] at hq
      cases hq
    rw [lookup_put hplace, if_neg hne, hq]
  · rw [lookup_put hplace] at hq
    split at hq
    · exact .inr (Option.some.inj hq).symm
    · exact .inl hq

/-- **Making directories adds directories and changes nothing else**, whether it comes to a fault or not. -/
theorem moreDirectories_makeWay (fs : Files) (made : Bool) (here : Place) (parts : List String) :
    MoreDirectories fs (fs.makeWay made here parts).1 := by
  induction parts generalizing fs made here with
  | nil => exact .refl fs
  | cons part rest ih =>
    unfold makeWay
    split
    · exact ih fs made here
    · split
      · exact ih fs made here.dropLast
      · split
        · rename_i hnone
          split
          · exact .refl fs
          · exact (moreDirectories_put hnone).trans (ih _ true _)
        · exact ih fs made _
        · exact .refl fs

/-- What comes of making the directories in which a path lies, and the fault if they cannot be made. -/
def withDirectories (fs : Files) (path : String) : Files × Option FileFault :=
  match parentPath? path with
  | some parent => fs.makeDirectories parent
  | none => (fs, none)

theorem moreDirectories_withDirectories (fs : Files) (path : String) :
    MoreDirectories fs (fs.withDirectories path).1 := by
  unfold withDirectories
  split
  · exact moreDirectories_makeWay fs false _ _
  · exact .refl fs

/-! ## Ways that were open before -/

/-- Everything lies in directories. -/
def IsTree (fs : Files) : Prop := ∀ place name, (fs.lookup (place ++ [name])).isSome → fs.lookup place = some .directory

theorem isTree_of_nodes (h : ∀ e ∈ fs.nodes, fs.lookup e.1.dropLast = some .directory) : fs.IsTree := by
  intro place name hsome
  rw [lookup, if_neg (by simp), Option.isSome_map, List.find?_isSome] at hsome
  obtain ⟨e, he, hplace⟩ := hsome
  have habove := h e he
  rwa [of_decide_eq_true hplace, List.dropLast_concat] at habove

/-- Above everything there is something. -/
theorem IsTree.isSome_lookup (h : fs.IsTree) (habove : here <+: q) (hq : (fs.lookup q).isSome) :
    (fs.lookup here).isSome := by
  obtain ⟨more, rfl⟩ := habove
  induction more using List.reverseRecOn with
  | nil => simpa using hq
  | append_singleton more name ih =>
    rw [← List.append_assoc] at hq
    exact ih (by rw [h _ _ hq]; rfl)

/-- Without a `..` a way only leads down. -/
theorem isPrefix_of_follow (hup : ".." ∉ parts) (h : fs.follow here parts = .ok q) : here <+: q := by
  induction parts generalizing here with
  | nil => exact Except.ok.inj h ▸ List.prefix_refl here
  | cons part rest ih =>
    obtain ⟨hpart, hrest⟩ := List.ne_and_not_mem_of_not_mem_cons hup
    unfold follow at h
    split at h
    · cases h
    · cases h
    · split at h
      · exact ih hrest h
      · rw [if_neg hpart.symm] at h
        split at h
        · exact (List.prefix_append here [part]).trans (ih hrest h)
        · cases h

/-- **A way without a `..` that leads to something has been open all along** if that was there before the directories
were made. -/
theorem follow_of_moreDirectories (hmore : MoreDirectories fs fs') (htree : fs.IsTree) (hup : ".." ∉ parts)
    (h : fs'.follow here parts = .ok q) (hq : (fs.lookup q).isSome) : fs.follow here parts = .ok q := by
  induction parts generalizing here with
  | nil => exact h
  | cons part rest ih =>
    obtain ⟨hpart, hrest⟩ := List.ne_and_not_mem_of_not_mem_cons hup
    -- what the way goes through lies above its end, so it was there, and has been a directory
    obtain ⟨n, hn⟩ := Option.isSome_iff_exists.1 (htree.isSome_lookup (isPrefix_of_follow hup h) hq)
    unfold follow at h ⊢
    rw [hmore.keeps hn] at h
    rw [hn]
    cases n with
    | file text? => cases h
    | directory =>
      dsimp only at h ⊢
      split at h
      · rename_i hstays
        rw [if_pos hstays]
        exact ih hrest h
      · rename_i hstays
        rw [if_neg hpart.symm] at h
        rw [if_neg hstays, if_neg hpart.symm]
        split at h
        · rw [if_pos (htree.isSome_lookup (isPrefix_of_follow hrest h) hq)]
          exact ih hrest h
        · cases h

/-- A path leads to the place where a text is written, if there is something already. -/
theorem leadsTo_of_target (h : fs.target path = .ok place) (hplace : (fs.lookup place).isSome) :
    fs.LeadsTo path place := by
  obtain ⟨here, name, hparts, hfollow, hdirectory, hstays, hup, _, rfl⟩ := target_eq_ok h
  rw [LeadsTo, hparts, follow_append, hfollow]
  simp [Except.bind, follow, hdirectory, hstays, hup, hplace]

theorem lookup_target_ne_directory (h : fs.target path = .ok place) : fs.lookup place ≠ some .directory := by
  obtain ⟨_, _, _, _, _, _, _, hfree, rfl⟩ := target_eq_ok h
  exact hfree

theorem target_ne_nil (h : fs.target path = .ok place) : place ≠ [] := by
  obtain ⟨_, _, _, _, _, _, _, _, rfl⟩ := target_eq_ok h
  simp

/-- Without a `..`, a path that comes to lead to a place where there was something has led there all along. -/
theorem leadsTo_of_moreDirectories (hmore : MoreDirectories fs fs') (htree : fs.IsTree) (hup : ".." ∉ pathParts path)
    (h : fs'.target path = .ok place) (hplace : fs.lookup place = some n) : fs.LeadsTo path place := by
  have hstart : fs'.start path = fs.start path := by rw [start, start, hmore.here_eq]
  have hleads : fs'.LeadsTo path place := leadsTo_of_target h (by rw [hmore.keeps hplace]; rfl)
  rw [LeadsTo, hstart] at hleads
  exact follow_of_moreDirectories hmore htree hup hleads (by rw [hplace]; rfl)

end GatewayRegistrar.Files
