import GatewayRegistrar.Filter.Expression
import GatewayRegistrar.Proofs.Text.Cut

/-!
# The grammar of filter expressions

`Filter.IsFormed` counts the separators that a filter expression has to have, and `Filter.Spells` says how one is put
together from its parts. An expression can be read when its separators are right, and then key and pattern are what
stands behind the colon and behind the equals sign (`split?_eq`). This is so exactly for texts that are put together in
that way (`split?_eq_some_iff`), so key and pattern hold no separators that could be taken for others.
-/

namespace GatewayRegistrar
namespace Filter

variable {cs key pattern : List Char}

/-- One comma, one colon before it and one equals sign behind it. -/
def IsFormed (cs : List Char) : Prop :=
  cs.count ',' = 1 ∧ (textBefore ',' cs).count ':' = 1 ∧ (textBehind ',' cs).count '=' = 1

instance (cs : List Char) : Decidable (IsFormed cs) :=
  inferInstanceAs (Decidable (_ ∧ _ ∧ _))

/-- **How an expression is put together**: some text and a colon before the key, some text and an equals sign before the
pattern, and a comma between the two sides. -/
inductive Spells : List Char → List Char → List Char → Prop
  | intro {front key middle pattern : List Char} : ',' ∉ front → ':' ∉ front → ',' ∉ key → ':' ∉ key →
      ',' ∉ middle → '=' ∉ middle → ',' ∉ pattern → '=' ∉ pattern →
        Spells ((front ++ ':' :: key) ++ ',' :: (middle ++ '=' :: pattern)) key pattern

/-! ## Splitting -/

/-- **Key and pattern of an expression with the right separators.** -/
theorem split?_eq (cs : List Char) :
    split? cs =
      if IsFormed cs then some (textBehind ':' (textBefore ',' cs), textBehind '=' (textBehind ',' cs)) else none := by
  simp only [split?, splitOnce?_eq, Option.bind_eq_bind, Option.pure_def]
  by_cases hcomma : cs.count ',' = 1
  · simp only [if_pos hcomma, Option.bind_some]
    by_cases hcolon : (textBefore ',' cs).count ':' = 1
    · simp only [if_pos hcolon, Option.bind_some]
      by_cases hequals : (textBehind ',' cs).count '=' = 1
      · rw [if_pos hequals, if_pos ⟨hcomma, hcolon, hequals⟩, Option.bind_some]
      · rw [if_neg hequals, if_neg fun h : IsFormed cs => hequals h.2.2, Option.bind_none]
    · rw [if_neg hcolon, if_neg fun h : IsFormed cs => hcolon h.2.1, Option.bind_none]
  · rw [if_neg hcomma, if_neg fun h : IsFormed cs => hcomma h.1, Option.bind_none]

/-- **What can be split is put together from what it is split into.** -/
theorem split?_eq_some_iff : split? cs = some (key, pattern) ↔ Spells cs key pattern := by
  simp only [split?, Option.bind_eq_bind, Option.bind_eq_some_iff, Prod.exists, splitOnce?_eq_some_iff,
    Option.pure_def, Option.some.injEq, Prod.mk.injEq]
  constructor
  · rintro ⟨_, _, ⟨rfl, hname, hvalues⟩, front, _, ⟨rfl, hfront, hkey⟩, middle, _, ⟨rfl, hmiddle, hpattern⟩, rfl, rfl⟩
    simp only [List.mem_append, List.mem_cons, not_or] at hname hvalues
    exact .intro hname.1 hfront hname.2.2 hkey hvalues.1 hmiddle hvalues.2.2 hpattern
  · rintro ⟨hfront, hfront', hkey, hkey', hmiddle, hmiddle', hpattern, hpattern'⟩
    rename_i front middle
    exact ⟨_, _, ⟨rfl, by simp [hfront, hkey], by simp [hmiddle, hpattern]⟩, front, key, ⟨rfl, hfront', hkey'⟩, middle,
      pattern, ⟨rfl, hmiddle', hpattern'⟩, rfl, rfl⟩

/-! ## Reading -/

variable {e : String}

theorem ofText?_of_split? (h : split? e.toList = some (key, pattern)) :
    ofText? e = .ok ⟨String.ofList key, String.ofList pattern, e⟩ := by
  rw [ofText?, h]

/-- An expression that is read is put together from the key and the pattern of the filter, which keeps it. -/
theorem ofText?_eq_ok_iff_spells {f : Filter} :
    ofText? e = .ok f ↔ f.expression = e ∧ Spells e.toList f.tagKey.toList f.pattern.toList := by
  rw [← split?_eq_some_iff]
  constructor
  · intro h
    unfold ofText? at h
    split at h
    · rename_i key pattern hsplit
      cases h
      exact ⟨rfl, by rw [hsplit, String.toList_ofList, String.toList_ofList]⟩
    · cases h
  · rintro ⟨rfl, hsplit⟩
    rw [ofText?_of_split? hsplit, String.ofList_toList, String.ofList_toList]

/-- The usual way to write a filter. -/
def written (key pattern : String) : String := "Name=tag:" ++ key ++ ",Values=" ++ pattern

/-- **A filter that is written in the usual way is read back.** -/
theorem ofText?_written {key pattern : String} (hcomma : ',' ∉ key.toList) (hcolon : ':' ∉ key.toList)
    (hcomma' : ',' ∉ pattern.toList) (hequals : '=' ∉ pattern.toList) :
    ofText? (written key pattern) = .ok ⟨key, pattern, written key pattern⟩ := by
  refine ofText?_eq_ok_iff_spells.2 ⟨rfl, ?_⟩
  have htext : (written key pattern).toList =
      ("Name=tag".toList ++ ':' :: key.toList) ++ ',' :: ("Values".toList ++ '=' :: pattern.toList) := by
    simp [written]
  rw [htext]
  exact .intro (by decide) (by decide) hcomma hcolon (by decide) (by decide) hcomma' hequals

/-- **The grammar of filter expressions.** An expression can be read exactly when it holds one comma, one colon before
it and one equals sign behind it. The key is then what stands between colon and comma, the pattern what stands behind
the equals sign, and the filter is written as it was read. Any other expression is refused, and named in the refusal.
What has been read is put together from its key and pattern, with any texts before the colon and before the equals sign
that add no separators; and every key without comma and colon can be written together with every pattern without comma
and equals sign. -/
theorem filter_grammar (e : String) :
    ((∃ f, ofText? e = .ok f) ↔ IsFormed e.toList) ∧
    (IsFormed e.toList →
      ofText? e = .ok {
        tagKey := String.ofList (textBehind ':' (textBefore ',' e.toList))
        pattern := String.ofList (textBehind '=' (textBehind ',' e.toList))
        expression := e }) ∧
    (¬ IsFormed e.toList → ofText? e = .error (.malformed e)) ∧
    (∀ f, ofText? e = .ok f ↔ f.expression = e ∧ Spells e.toList f.tagKey.toList f.pattern.toList) ∧
    (∀ f, ofText? e = .ok f →
      f.toText = e ∧ ofText? f.toText = .ok f ∧ ',' ∉ f.tagKey.toList ∧ ':' ∉ f.tagKey.toList ∧
        ',' ∉ f.pattern.toList ∧ '=' ∉ f.pattern.toList) ∧
    ∀ key pattern : String, ',' ∉ key.toList → ':' ∉ key.toList → ',' ∉ pattern.toList → '=' ∉ pattern.toList →
      ofText? ("Name=tag:" ++ key ++ ",Values=" ++ pattern) =
        .ok ⟨key, pattern, "Name=tag:" ++ key ++ ",Values=" ++ pattern⟩ := by
  have hformed : IsFormed e.toList → ofText? e = .ok ⟨String.ofList (textBehind ':' (textBefore ',' e.toList)),
      String.ofList (textBehind '=' (textBehind ',' e.toList)), e⟩ := fun h =>
    ofText?_of_split? (by rw [split?_eq, if_pos h])
  have hother : ¬ IsFormed e.toList → ofText? e = .error (.malformed e) := fun h => by
    rw [ofText?, split?_eq, if_neg h]
  refine ⟨⟨?_, fun h => ⟨_, hformed h⟩⟩, hformed, hother, fun f => ofText?_eq_ok_iff_spells, fun f hf => ?_,
    fun key pattern hcomma hcolon hcomma' hequals => ofText?_written hcomma hcolon hcomma' hequals⟩
  · rintro ⟨f, hf⟩
    by_contra h
    rw [hother h] at hf
    cases hf
  · obtain ⟨htext, hspells⟩ := ofText?_eq_ok_iff_spells.1 hf
    have hread : ofText? f.toText = .ok f := by rw [toText, htext, hf]
    refine ⟨htext, hread, ?_⟩
    generalize e.toList = cs at hspells
    generalize f.tagKey.toList = key, f.pattern.toList = pattern at hspells ⊢
    obtain ⟨_, _, hcomma, hcolon, _, _, hcomma', hequals⟩ := hspells
    exact ⟨hcomma, hcolon, hcomma', hequals⟩

/-- A colon in the pattern and an equals sign in the name are no separators. -/
example : ofText? "a=b:env,v=x:y" = .ok ⟨"env", "x:y", "a=b:env,v=x:y"⟩ := by decide +kernel

end Filter
end GatewayRegistrar
