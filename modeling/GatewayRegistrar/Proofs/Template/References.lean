import GatewayRegistrar.Proofs.Json.Values
import GatewayRegistrar.Proofs.Text.Digits
import GatewayRegistrar.Template.Pieces

/-!
# How references are read

A template refers to the name of the service, to its tags and to its stage names. Between the braces stands a path, or a
call of the helper that looks members up. Every reader of a tag takes its part of the text and leaves the rest, so each
of the lemmas below holds before any rest: those about names, keys and literals (`helperName_append`, `pathKey_append`,
`term_quoted`) make up those about paths and arguments (`path_append`, `arguments_lookUp`), and these the one about the
whole reference: it is one tag, and leaves what stands behind its braces (`Reference.token?_written`).
-/

namespace GatewayRegistrar.Template

/-! ## Names and paths -/

section Reading

variable {c : Char} {w k cs rest : List Char} {steps : List Step}

/-- A character of a name is no sign. -/
theorem ne_of_isNameChar {x : Char} (hc : isNameChar c = true) (hx : isNameChar x = false) : c ≠ x := by
  rintro rfl
  rw [hc] at hx
  cases hx

theorem skipBlanks_name (hc : isNameChar c = true) (cs : List Char) : skipBlanks (c :: cs) = c :: cs := by
  have hne : ∀ x, isNameChar x = false → c ≠ x := fun _ => ne_of_isNameChar hc
  simp [skipBlanks, isTagBlank, hne ' ' rfl, hne '\t' rfl, hne '\n' rfl, hne '\r' rfl]

/-- A name is read up to the first character that goes on with none. -/
theorem helperName_append (hc : isNameChar c = true) (hw : ∀ x ∈ w, isNameChar x = true)
    (hrest : ∀ x, rest.head? = some x → isNameChar x = false) :
    helperName (c :: w ++ rest) = some (String.ofList (c :: w), rest) := by
  obtain ⟨htake, hdrop⟩ := takeWhile_dropWhile_append (List.forall_mem_cons.2 ⟨hc, hw⟩) hrest
  rw [helperName, htake, hdrop, List.cons_append, if_pos (show beginsName (c :: (w ++ rest)) = true from hc)]

/-- A key in a path is read like a name. -/
theorem pathKey_append (hc : isNameChar c = true) (hw : ∀ x ∈ w, isNameChar x = true)
    (hrest : ∀ x, rest.head? = some x → isNameChar x = false) :
    pathKey (c :: w ++ rest) = some (pathKey.stepOf (c :: w), rest) := by
  obtain ⟨htake, hdrop⟩ := takeWhile_dropWhile_append (List.forall_mem_cons.2 ⟨hc, hw⟩) hrest
  unfold pathKey
  split
  · rename_i heq
    exact absurd (List.cons.inj heq).1 (ne_of_isNameChar hc rfl)
  · rw [htake, hdrop, List.cons_append, if_pos (show beginsName (c :: (w ++ rest)) = true from hc)]

/-- Between brackets, everything up to the closing one is the key. -/
theorem pathKey_bracketed (hk : ']' ∉ k) : pathKey ('[' :: k ++ ']' :: rest) = some (pathKey.stepOf k, rest) := by
  have hopen : ∀ x ∈ k, (x != ']') = true := fun x hx => bne_iff_ne.2 fun heq => hk (heq ▸ hx)
  have hend : ∀ x, (']' :: rest).head? = some x → (x != ']') = false := by
    rintro _ ⟨⟩
    rfl
  obtain ⟨htake, hdrop⟩ := takeWhile_dropWhile_append hopen hend
  rw [List.cons_append, pathKey, hdrop, htake]
  rfl

/-- A path ends where no separator stands. -/
theorem moreKeys_end (hcs : pathSeparator? cs = none) (n : Nat) : moreKeys n cs = ([], cs) := by
  cases n with
  | zero => rfl
  | succ n => rw [moreKeys, hcs, Option.bind_none]

/-- One key behind a separator is the last one where no separator follows it. -/
theorem moreKeys_key (hkey : pathKey cs = some (steps, rest)) (hrest : pathSeparator? rest = none) (n : Nat) :
    moreKeys (n + 1) ('.' :: cs) = (steps, rest) := by
  rw [moreKeys, pathSeparator?, Option.bind_some, hkey]
  simp [moreKeys_end hrest]

/-- A path that begins with a name. The name must not begin like `this`, which would be no key. -/
theorem path_append (hc : isNameChar c = true) (hthis : c ≠ 't') (hw : ∀ x ∈ w, isNameChar x = true)
    (hk : ∀ x, (k ++ rest).head? = some x → isNameChar x = false)
    (hmore : moreKeys (k ++ rest).length (k ++ rest) = (steps, rest)) :
    path (c :: w ++ (k ++ rest)) =
      some (⟨String.ofList (c :: w ++ k), .key (String.ofList (c :: w)) :: steps⟩, rest) := by
  have hpoint : c ≠ '.' := ne_of_isNameChar hc rfl
  have hat : c ≠ '@' := ne_of_isNameChar hc rfl
  have hcurrent : dropCurrentMark (c :: w ++ (k ++ rest)) = c :: w ++ (k ++ rest) := by
    simp [dropCurrentMark, wordAndSeparator?, dropStart?, hthis.symm, hpoint.symm]
  have hroot : outermostMark (c :: w ++ (k ++ rest)) = ([], c :: w ++ (k ++ rest)) := by
    simp [outermostMark, wordAndSeparator?, dropStart?, hat.symm]
  have hlocal : localMark (c :: w ++ (k ++ rest)) = ([], c :: w ++ (k ++ rest)) := by
    simp [localMark, hat]
  have hups : ∀ n, stepsUp n (c :: w ++ (k ++ rest)) = ([], c :: w ++ (k ++ rest)) := fun n => by
    cases n <;> simp [stepsUp, wordAndSeparator?, dropStart?, hpoint.symm]
  have hstep : pathKey.stepOf (c :: w) = [.key (String.ofList (c :: w))] := by
    rw [pathKey.stepOf, if_neg]
    exact fun h => hthis (List.cons.inj h).1
  have hwritten : (c :: w ++ (k ++ rest)).take ((c :: w ++ (k ++ rest)).length - rest.length) = c :: w ++ k := by
    rw [← List.append_assoc, List.length_append, Nat.add_sub_cancel, List.take_left]
  simp only [path, hcurrent, hroot, hlocal, hups, pathKey_append hc hw hk, hstep, Option.bind_eq_bind, Option.bind_some,
    hmore, hwritten]
  rfl

end Reading

/-! ## Arguments -/

section Arguments

variable {cs rest : List Char} {t : Reader Term} {p : Path}

/-- A path that is no literal is a term. -/
theorem term_path (hkeyword : beginsKeyword cs = false) (hliteral : afterLiteral? (cs.length + 1) cs = none)
    (hpath : path cs = some (p, rest)) (n : Nat) : term (n + 1) cs = some (.path p, rest) := by
  simp only [term, hkeyword, Bool.false_eq_true, ↓reduceIte, hliteral, hpath]

/-- Where neither an option nor a term stands first, there are no arguments. -/
theorem arguments_none (hoption : helperName (skipBlanks cs) = none) (hterm : t (skipBlanks cs) = none) (n : Nat) :
    arguments t n cs = (⟨[], []⟩, cs) := by
  cases n with
  | zero => rfl
  | succ n =>
    have hnone : option t (skipBlanks cs) = none := by rw [option, hoption]; rfl
    simp only [arguments, hnone, hterm]

/-- No arguments stand before the end of a tag. -/
theorem arguments_closing (n : Nat) (rest : List Char) :
    arguments anyTerm n (closing 2 ++ rest) = (⟨[], []⟩, closing 2 ++ rest) :=
  arguments_none rfl rfl n

/-- No arguments stand where a path goes on. -/
theorem arguments_key {c : Char} (hup : c ≠ '.') (hcurrent : c ≠ '/') (n : Nat) (rest : List Char) :
    arguments anyTerm n ('.' :: c :: rest) = (⟨[], []⟩, '.' :: c :: rest) := by
  refine arguments_none rfl ?_ n
  have hkeyword : beginsKeyword ('.' :: c :: rest) = false := rfl
  have hliteral : ∀ n, afterLiteral? (n + 1) ('.' :: c :: rest) = none := fun _ => rfl
  have hkey : pathKey ('.' :: c :: rest) = none := rfl
  have hpath : path ('.' :: c :: rest) = none := by
    simp [path, dropCurrentMark, wordAndSeparator?, dropStart?, hcurrent.symm, outermostMark, localMark, stepsUp,
      hup.symm, hkey]
  show term _ ('.' :: c :: rest) = none
  simp [term, hkeyword, hliteral, hpath]

end Arguments

/-! ## Literals -/

/-- The signs of keys that stand between quotes. -/
def IsKeySign (c : Char) : Prop := c.isAlphanum = true ∨ c ∈ [':', '-', '_', '.', '/']

instance : DecidablePred IsKeySign := fun c => inferInstanceAs (Decidable (c.isAlphanum = true ∨ c ∈ _))

section Literals

variable {k rest : List Char}

theorem IsKeySign.ne {c : Char} (h : IsKeySign c) : c ≠ '"' ∧ c ≠ '\\' := by
  refine ⟨?_, ?_⟩ <;> rintro rfl <;> exact absurd h (by decide)

/-- The signs of keys stand for themselves between quotes. -/
theorem IsKeySign.escapedChar {c : Char} (h : IsKeySign c) : Json.escapedChar c = [c] := by
  have hcontrol : ∀ n < 0x20, ¬ IsKeySign (Char.ofNat n) := by decide
  have hvisible : ¬ c.toNat < 0x20 := fun hlt => hcontrol _ hlt (by rwa [Char.ofNat_toNat])
  have hne : ∀ x : Char, x.toNat < 0x20 → c ≠ x := fun x hx heq => hvisible (heq ▸ hx)
  simp [Json.escapedChar, h.ne, hvisible, hne '\n' (by decide), hne '\r' (by decide), hne '\t' (by decide),
    hne '\x08' (by decide), hne '\x0c' (by decide)]

/-- A quoted text ends at the first quote, where nothing is escaped. -/
theorem afterQuote?_append {quote : Char} (hk : ∀ c ∈ k, c ≠ quote ∧ c ≠ '\\') {n : Nat} (hn : k.length < n) :
    afterQuote? quote n (k ++ quote :: rest) = some rest := by
  induction k generalizing n with
  | nil =>
    obtain ⟨n, rfl⟩ := Nat.exists_eq_succ_of_ne_zero (Nat.ne_zero_of_lt hn)
    simp [afterQuote?]
  | cons c k ih =>
    obtain ⟨n, rfl⟩ := Nat.exists_eq_succ_of_ne_zero (Nat.ne_zero_of_lt hn)
    obtain ⟨⟨hquote, hescape⟩, hk⟩ := List.forall_mem_cons.1 hk
    rw [List.cons_append, afterQuote?, if_neg hquote, if_neg hescape]
    exact ih hk (by simpa using hn)

/-- A key between quotes is a literal. -/
theorem literalValue?_quoted (hk : ∀ c ∈ k, IsKeySign c) :
    literalValue? ('"' :: k ++ ['"']) = some (.text (String.ofList k)) := by
  have hform : '"' :: k ++ ['"'] = Json.write .compact (.text (String.ofList k)) := by
    have hescaped : k.flatMap Json.escapedChar = k := by
      induction k with
      | nil => rfl
      | cons c k ih =>
        obtain ⟨hc, hk⟩ := List.forall_mem_cons.1 hk
        rw [List.flatMap_cons, hc.escapedChar, ih hk, List.singleton_append]
    simp [Json.write, Json.quoted, hescaped]
  have hread := Json.parse?_compact (.text Json.nestingLimit (String.ofList k))
  rw [Json.compact, ← hform] at hread
  show (Json.parse? (String.ofList ('"' :: k ++ ['"']))).map Value.sorted = _
  rw [hread]
  rfl

theorem term_quoted (hk : ∀ c ∈ k, IsKeySign c) (n : Nat) :
    term (n + 1) ('"' :: k ++ '"' :: rest) = some (.literal (.text (String.ofList k)), rest) := by
  have hkeyword : beginsKeyword ('"' :: (k ++ '"' :: rest)) = false := rfl
  have hliteral : ∀ m, afterLiteral? (m + 1) ('"' :: (k ++ '"' :: rest)) = some rest := fun m => by
    have hend : afterQuote? '"' ((k ++ '"' :: rest).length + 1) (k ++ '"' :: rest) = some rest :=
      afterQuote?_append (fun c hc => (hk c hc).ne) (by rw [List.length_append]; omega)
    show (afterQuote? '"' _ (k ++ '"' :: rest)).or _ = _
    rw [hend, Option.some_or]
  have htake : ('"' :: (k ++ '"' :: rest)).take (('"' :: (k ++ '"' :: rest)).length - rest.length) =
      '"' :: k ++ ['"'] := by
    have hsplit : '"' :: (k ++ '"' :: rest) = ('"' :: k ++ ['"']) ++ rest := by simp
    rw [hsplit, List.length_append, Nat.add_sub_cancel, List.take_left]
  rw [List.cons_append, term, hkeyword, if_neg Bool.false_ne_true, hliteral]
  · show (literalValue? (('"' :: (k ++ '"' :: rest)).take _)).map _ = _
    rw [htake, literalValue?_quoted hk, Option.map_some]
  · rintro _ ⟨⟩

end Literals

/-! ## References -/

/-- The references of a template: to the name of the service, to one of its tags by a path or by the helper that looks
members up, and to one of its stage names. -/
inductive Reference where
  | name
  | tag (key : String)
  | lookUp (key : String)
  | stage (index : String)
deriving DecidableEq, Repr

namespace Reference

/-- What stands between the braces. -/
def inner : Reference → List Char
  | name => "Name".toList
  | tag key => "Tags.".toList ++ key.toList
  | lookUp key => "lookup Tags \"".toList ++ key.toList ++ ['"']
  | stage index => "StageNames.[".toList ++ index.toList ++ [']']

/-- The reference as it is written. -/
def written (r : Reference) : List Char := opening 2 ++ r.inner ++ closing 2

/-- Whether the reference can be written: keys in paths are letters, keys between quotes may hold further signs, and an
index consists of digits. None of them is empty. -/
def IsWritable : Reference → Prop
  | name => True
  | tag key => key ≠ "" ∧ ∀ c ∈ key.toList, c.isAlpha = true
  | lookUp key => key ≠ "" ∧ ∀ c ∈ key.toList, IsKeySign c
  | stage index => index ≠ "" ∧ ∀ c ∈ index.toList, c.isDigit = true

-- the characters of a text are gone through one by one, and not all that there are
instance : DecidablePred IsWritable
  | name => .isTrue trivial
  | tag key => @instDecidableAnd _ _ _ (List.decidableBAll _ key.toList)
  | lookUp key => @instDecidableAnd _ _ _ (List.decidableBAll _ key.toList)
  | stage index => @instDecidableAnd _ _ _ (List.decidableBAll _ index.toList)

/-- The tag that the reference is read as. -/
def reading : Reference → Tag
  | name => ⟨.path ⟨"Name", [.key "Name"]⟩, [], [], []⟩
  | tag key => ⟨.path ⟨"Tags." ++ key, .key "Tags" :: pathKey.stepOf key.toList⟩, [], [], []⟩
  | lookUp key => ⟨.name "lookup", [.path ⟨"Tags", [.key "Tags"]⟩, .literal (.text key)], [], []⟩
  | stage index =>
    ⟨.path ⟨"StageNames.[" ++ index ++ "]", [.key "StageNames", .key index]⟩, [], [], []⟩

end Reference

section Tags

variable {α : Type} {close : List Char → Option α} {c : Char} {cs after rest : List Char} {word : String} {a : α}

/-- A tag is a path where no arguments follow its first name. -/
theorem expressionTag_path {p : Path} (hc : isNameChar c = true) (hword : helperName (c :: cs) = some (word, after))
    (hargs : arguments anyTerm after.length after = (⟨[], []⟩, after)) (hpath : path (c :: cs) = some (p, rest))
    (hclose : close rest = some a) : expressionTag close (c :: cs) = some (⟨.path p, [], [], []⟩, a) := by
  have hparen : c ≠ '(' := ne_of_isNameChar hc rfl
  simp [expressionTag, skipBlanks_name hc, hword, hargs, computedHead, hparen, hpath, hclose]

/-- A tag is a call where arguments follow its first name. -/
theorem expressionTag_call {t : Term} {ts : List Term} (hc : isNameChar c = true)
    (hword : helperName (c :: cs) = some (word, after))
    (hargs : arguments anyTerm after.length after = (⟨t :: ts, []⟩, rest)) (hclose : close rest = some a) :
    expressionTag close (c :: cs) = some (⟨.name word, t :: ts, [], []⟩, a) := by
  simp [expressionTag, skipBlanks_name hc, hword, hargs, hclose]

theorem tagEnd?_closing (rest : List Char) : tagEnd? (closing 2) (closing 2 ++ rest) = some (false, rest) := rfl

/-- What ends a tag goes on with no name and with no key. -/
theorem head?_closing (rest : List Char) : ∀ x, (closing 2 ++ rest).head? = some x → isNameChar x = false := by
  rintro _ ⟨⟩
  rfl

/-- A tag with a path of a name and a key behind it. -/
theorem expressionTag_keys {w k key : List Char} {d : Char} {steps : List Step} (hw : ∀ x ∈ c :: w, isNameChar x = true)
    (hthis : c ≠ 't') (hk : key = d :: k) (hup : d ≠ '.') (hcurrent : d ≠ '/')
    (hkey : pathKey (key ++ (closing 2 ++ rest)) = some (steps, closing 2 ++ rest)) :
    expressionTag (tagEnd? (closing 2)) (c :: w ++ ('.' :: key ++ (closing 2 ++ rest))) =
      some (⟨.path ⟨String.ofList (c :: w ++ '.' :: key), .key (String.ofList (c :: w)) :: steps⟩, [], [], []⟩,
        false, rest) := by
  obtain ⟨hc, hw⟩ := List.forall_mem_cons.1 hw
  have hpoint : ∀ x, ('.' :: key ++ (closing 2 ++ rest)).head? = some x → isNameChar x = false := by
    rintro _ ⟨⟩
    rfl
  have hmore : moreKeys ('.' :: key ++ (closing 2 ++ rest)).length ('.' :: key ++ (closing 2 ++ rest)) =
      (steps, closing 2 ++ rest) := moreKeys_key hkey rfl _
  refine expressionTag_path hc (helperName_append hc hw hpoint) ?_ (path_append hc hthis hw hpoint hmore)
    (tagEnd?_closing rest)
  subst hk
  exact arguments_key hup hcurrent _ _

end Tags

/-- The arguments of the helper that looks up a tag. -/
theorem arguments_lookUp {k : List Char} (hk : ∀ x ∈ k, IsKeySign x) {n : Nat} (hn : 2 ≤ n) (rest : List Char) :
    arguments anyTerm n (" Tags \"".toList ++ k ++ ('"' :: (closing 2 ++ rest))) =
      (⟨[.path ⟨"Tags", [.key "Tags"]⟩, .literal (.text (String.ofList k))], []⟩, closing 2 ++ rest) := by
  let quoted : List Char := '"' :: k ++ '"' :: (closing 2 ++ rest)
  have hw : ∀ x ∈ ['a', 'g', 's'], isNameChar x = true := List.all_eq_true.1 rfl
  have hblank : ∀ x, (' ' :: quoted).head? = some x → isNameChar x = false := by
    rintro _ ⟨⟩
    decide
  -- the first argument is a path, and no option, since no equals sign follows it
  have hoption : option anyTerm ('T' :: ['a', 'g', 's'] ++ ' ' :: quoted) = none := by
    rw [option, helperName_append (by decide) hw hblank]
    rfl
  have hpath : path ('T' :: ['a', 'g', 's'] ++ ([] ++ ' ' :: quoted)) =
      some (⟨"Tags", [.key "Tags"]⟩, ' ' :: quoted) :=
    path_append (k := []) (by decide) (by decide) hw hblank (moreKeys_end rfl _)
  have hterm : anyTerm ('T' :: ['a', 'g', 's'] ++ ' ' :: quoted) =
      some (.path ⟨"Tags", [.key "Tags"]⟩, ' ' :: quoted) := term_path rfl rfl hpath _
  -- the second one is the key between quotes
  have hnone : option anyTerm quoted = none := rfl
  have hliteral : anyTerm quoted = some (.literal (.text (String.ofList k)), closing 2 ++ rest) := term_quoted hk _
  have hskip : skipBlanks (" Tags \"".toList ++ k ++ ('"' :: (closing 2 ++ rest))) =
      'T' :: ['a', 'g', 's'] ++ ' ' :: quoted := rfl
  have hskip' : skipBlanks (' ' :: quoted) = quoted := rfl
  obtain ⟨n, rfl⟩ := Nat.exists_eq_add_of_le' hn
  rw [arguments, hskip, hoption, hterm]
  dsimp only
  rw [arguments, hskip', hnone, hliteral]
  dsimp only
  rw [arguments_closing]

namespace Reference

theorem expressionTag_name (rest : List Char) :
    expressionTag (tagEnd? (closing 2)) (name.inner ++ (closing 2 ++ rest)) = some (name.reading, false, rest) := by
  have hw : ∀ x ∈ ['a', 'm', 'e'], isNameChar x = true := List.all_eq_true.1 rfl
  have hmore : ∀ n, moreKeys n ([] ++ (closing 2 ++ rest)) = ([], closing 2 ++ rest) := moreKeys_end rfl
  exact expressionTag_path rfl (helperName_append rfl hw (head?_closing rest)) (arguments_closing _ rest)
    (path_append (k := []) rfl (by decide) hw (head?_closing rest) (hmore _)) (tagEnd?_closing rest)

theorem expressionTag_tag {key : String} (h : (tag key).IsWritable) (rest : List Char) :
    expressionTag (tagEnd? (closing 2)) ((tag key).inner ++ (closing 2 ++ rest)) =
      some ((tag key).reading, false, rest) := by
  obtain ⟨hne, hletters⟩ := h
  obtain ⟨d, k, hkey⟩ := List.exists_cons_of_ne_nil (mt String.toList_eq_nil_iff.1 hne)
  have hname : ∀ x ∈ d :: k, isNameChar x = true := fun x hx => by
    simp [isNameChar, Char.isAlphanum, hletters x (hkey ▸ hx)]
  obtain ⟨hd, hk⟩ := List.forall_mem_cons.1 hname
  have hread : pathKey (key.toList ++ (closing 2 ++ rest)) = some (pathKey.stepOf key.toList, closing 2 ++ rest) := by
    rw [hkey]
    exact pathKey_append hd hk (head?_closing rest)
  have hwritten : String.ofList ('T' :: ['a', 'g', 's'] ++ '.' :: key.toList) = "Tags." ++ key := by
    show String.ofList ("Tags.".toList ++ key.toList) = _
    rw [String.ofList_append, String.ofList_toList, String.ofList_toList]
  have htag := expressionTag_keys (c := 'T') (w := ['a', 'g', 's']) (List.all_eq_true.1 rfl) (by decide) hkey
    (ne_of_isNameChar hd rfl) (ne_of_isNameChar hd rfl) hread
  rwa [hwritten] at htag

theorem expressionTag_lookUp {key : String} (h : (lookUp key).IsWritable) (rest : List Char) :
    expressionTag (tagEnd? (closing 2)) ((lookUp key).inner ++ (closing 2 ++ rest)) =
      some ((lookUp key).reading, false, rest) := by
  obtain ⟨-, hsigns⟩ := h
  have hw : ∀ x ∈ ['o', 'o', 'k', 'u', 'p'], isNameChar x = true := List.all_eq_true.1 rfl
  have hspace : ∀ x, (" Tags \"".toList ++ key.toList ++ '"' :: (closing 2 ++ rest)).head? = some x →
      isNameChar x = false := by
    rintro _ ⟨⟩
    rfl
  have hlong : 2 ≤ (" Tags \"".toList ++ key.toList ++ '"' :: (closing 2 ++ rest)).length := by
    rw [List.length_append, List.length_append]
    exact Nat.le_add_right_of_le (Nat.le_add_right_of_le (by decide))
  have htag := expressionTag_call (c := 'l') rfl (helperName_append rfl hw hspace)
    (arguments_lookUp hsigns hlong rest) (tagEnd?_closing rest)
  rw [String.ofList_toList] at htag
  have hinner : (lookUp key).inner ++ (closing 2 ++ rest) =
      'l' :: (['o', 'o', 'k', 'u', 'p'] ++ (" Tags \"".toList ++ key.toList ++ '"' :: (closing 2 ++ rest))) := by
    have hfirst : "lookup Tags \"".toList = 'l' :: ['o', 'o', 'k', 'u', 'p'] ++ " Tags \"".toList := rfl
    show "lookup Tags \"".toList ++ key.toList ++ ['"'] ++ (closing 2 ++ rest) = _
    simp only [hfirst, List.append_assoc, List.cons_append, List.nil_append]
  exact hinner ▸ htag

theorem expressionTag_stage {index : String} (h : (stage index).IsWritable) (rest : List Char) :
    expressionTag (tagEnd? (closing 2)) ((stage index).inner ++ (closing 2 ++ rest)) =
      some ((stage index).reading, false, rest) := by
  obtain ⟨-, hdigits⟩ := h
  have hbracket : ']' ∉ index.toList := fun hmem => absurd (hdigits _ hmem) (by decide)
  have hstep : pathKey.stepOf index.toList = [.key index] := by
    rw [pathKey.stepOf, if_neg, String.ofList_toList]
    exact fun heq => absurd (hdigits 't' (by rw [heq]; decide)) (by decide)
  have hread : pathKey ('[' :: index.toList ++ [']'] ++ (closing 2 ++ rest)) =
      some ([.key index], closing 2 ++ rest) := by
    rw [List.append_assoc, ← hstep]
    exact pathKey_bracketed hbracket
  have hwritten : String.ofList ('S' :: "tageNames".toList ++ '.' :: ('[' :: index.toList ++ [']'])) =
      "StageNames.[" ++ index ++ "]" := by
    show String.ofList ("StageNames.[".toList ++ index.toList ++ "]".toList) = _
    rw [String.ofList_append, String.ofList_append, String.ofList_toList, String.ofList_toList, String.ofList_toList]
  have htag := expressionTag_keys (c := 'S') (w := "tageNames".toList) (List.all_eq_true.1 rfl) (by decide)
    List.cons_append (by decide) (by decide) hread
  rwa [hwritten] at htag

/-- **A reference is read as its tag.** -/
theorem expressionTag_inner {r : Reference} (h : r.IsWritable) (rest : List Char) :
    expressionTag (tagEnd? (closing 2)) (r.inner ++ (closing 2 ++ rest)) = some (r.reading, false, rest) := by
  cases r with
  | name => exact expressionTag_name rest
  | tag key => exact expressionTag_tag h rest
  | lookUp key => exact expressionTag_lookUp h rest
  | stage index => exact expressionTag_stage h rest

end Reference

/-! ## Tags -/

section Tokens

variable {c : Char} {cs rest : List Char} {t : Tag} {trims : Bool}

/-- What begins like a name but not like `else` is no sign of a tag. -/
theorem token?_expression (hc : isNameChar c = true) (helse : c ≠ 'e')
    (hread : expressionTag (tagEnd? (closing 2)) (c :: cs) = some (t, trims, rest)) (before : List Char) :
    token? before (opening 2 ++ c :: cs) = some ⟨.expression t, before, rest, false, trims⟩ := by
  have hne : ∀ x, isNameChar x = false → c ≠ x := fun _ => ne_of_isNameChar hc
  have htilde : tilde (c :: cs) = (false, c :: cs) := by simp [tilde, skipBlanks_name hc, hne '~' rfl]
  have hcomment : dropStart? (opening 2 ++ ['!']) (opening 2 ++ c :: cs) = none := by
    simp [opening, dropStart?, (hne '!' rfl).symm]
  have hbraced : bracedTag? (opening 2 ++ c :: cs) = none := by
    have htight : dropStart? (opening 3) (opening 2 ++ c :: cs) = none := by
      simp [opening, dropStart?, (hne '{' rfl).symm]
    have hloose : dropStart? ['{'] (c :: cs) = none := by simp [dropStart?, (hne '{' rfl).symm]
    simp only [bracedTag?, htight, dropStart?_append, htilde, hloose, Option.bind_eq_bind, Option.bind_none,
      Option.bind_some, Option.or_none]
  have hbody : tagBody? (c :: cs) = some (.expression t, trims, rest) := by
    have hotherwise : otherwiseTag? (c :: cs) = none := by
      simp [otherwiseTag?, dropStart?, helse.symm, (hne '^' rfl).symm]
    unfold tagBody?
    split
    case h_6 => rw [hotherwise, hread]; rfl
    all_goals
      rename_i heq
      exact absurd (List.cons.inj heq).1 (hne _ rfl)
  simp only [token?, hcomment, hbraced, dropStart?_append, Option.bind_eq_bind, Option.bind_some, htilde, hbody]
  rfl

end Tokens

namespace Reference

/-- What stands between the braces begins like a name, but not like `else`. -/
theorem inner_eq_cons (r : Reference) : ∃ c cs, r.inner = c :: cs ∧ isNameChar c = true ∧ c ≠ 'e' := by
  cases r with
  | name => exact ⟨'N', _, rfl, by decide⟩
  | tag key => exact ⟨'T', _, rfl, by decide⟩
  | lookUp key => exact ⟨'l', _, rfl, by decide⟩
  | stage index => exact ⟨'S', _, rfl, by decide⟩

theorem written_append (r : Reference) (rest : List Char) :
    r.written ++ rest = opening 2 ++ (r.inner ++ (closing 2 ++ rest)) := by
  simp only [written, List.append_assoc]

/-- A reference opens no block between fourfold braces. -/
theorem verbatim?_written (r : Reference) (before rest : List Char) : verbatim? before (r.written ++ rest) = none := by
  obtain ⟨c, cs, hinner, hc, -⟩ := r.inner_eq_cons
  have hbrace : c ≠ '{' := ne_of_isNameChar hc rfl
  have hdrop : dropStart? (opening 4) (r.written ++ rest) = none := by
    simp [written_append, hinner, opening, dropStart?, hbrace.symm]
  rw [verbatim?, hdrop]
  rfl

/-- **A written reference is one tag.** -/
theorem token?_written {r : Reference} (h : r.IsWritable) (before rest : List Char) :
    token? before (r.written ++ rest) = some ⟨.expression r.reading, before, rest, false, false⟩ := by
  obtain ⟨c, cs, hinner, hc, helse⟩ := r.inner_eq_cons
  have hread := expressionTag_inner h rest
  rw [hinner, List.cons_append] at hread
  rw [written_append, hinner]
  exact token?_expression hc helse hread before

end Reference

end GatewayRegistrar.Template
