import GatewayRegistrar.Proofs.Template.Fragments
import GatewayRegistrar.Proofs.Value.Entries
import GatewayRegistrar.Template.Basic

/-!
# What templates say

A reference stands for a text of the service: its name in the catalog, the value of a tag, or a stage name. It is filled
in with this text, and is a fault where there is none (`writeExpression_reading`). Nothing is indented, escaped or read
as a template again, so a whole template says what its fragments stand for, one behind the other
(`renderTemplate_substitutes`). One path leads elsewhere: `this` is no key of a path but names the current value, and a
tag with this key has to be looked up instead.
-/

namespace GatewayRegistrar

open Template

/-! ## References -/

section References

variable {i : Identity} {p : Progress}

/-- What surrounds the parts of a whole template. -/
def Identity.setting (i : Identity) : Template.Setting :=
  { root := i.templateValue, scopes := [{}], bodies := [], indentation := "" }

/-- The text that a reference stands for. The key `this` names the current value, so that a path cannot lead to the tag
with that key: it stops at the table of the tags. -/
def Template.Reference.textIn? (i : Identity) : Reference → Option String
  | .name => some i.canonicalName
  | .tag key => if key = "this" then some "[object]" else entryOf? key i.tags
  | .lookUp key => entryOf? key i.tags
  | .stage index => i.stageNames[numberOf 10 index.toList]?

/-- The table of tags has the tags of the service. -/
theorem entryOf?_sortEntries_tags (hkeys : (i.tags.map (·.1)).Nodup) (k : String) :
    entryOf? k ((sortEntries i.tags).map fun e => (e.1, Value.text e.2)) = (entryOf? k i.tags).map Value.text := by
  rw [entryOf?_map, entryOf?_sortEntries, (singleValued_of_nodup hkeys).entryOf?_perm (List.reverse_perm _)]

/-- The way to a tag leads to its value. -/
theorem reach_tag (hkeys : (i.tags.map (·.1)).Nodup) (k : String) :
    reach i.templateValue ["Tags", k] =
      .ok ((entryOf? k i.tags).elim .missing fun v => .reached ["Tags", k] (.text v)) := by
  show (follow [k] (some (.ofTextTable (sortEntries i.tags))) >>= _) = _
  have hfollow : follow [k] (some (.ofTextTable (sortEntries i.tags))) = .ok ((entryOf? k i.tags).map Value.text) := by
    rw [← entryOf?_sortEntries_tags hkeys]
    rfl
  rw [hfollow]
  cases entryOf? k i.tags <;> rfl

/-- Digits are an index, up to the largest number that a machine word holds. -/
theorem indexOfKey?_digits {index : String} (hne : index ≠ "") (hdigits : ∀ c ∈ index.toList, c.isDigit = true) :
    indexOfKey? index = if numberOf 10 index.toList < 1 <<< 64 then some (numberOf 10 index.toList) else none := by
  obtain ⟨d, ds, hindex⟩ := List.exists_cons_of_ne_nil (mt String.toList_eq_nil_iff.1 hne)
  have hplus : dropStart? ['+'] index.toList = none := by
    have hd : '+' ≠ d := by
      rintro rfl
      exact absurd (hdigits '+' (hindex ▸ List.mem_cons_self)) (by decide)
    simp [hindex, dropStart?, hd]
  have hall : index.toList.any (!·.isDigit) = false := by
    simpa using hdigits
  have hnumber : index.toList.foldl (fun n d => n * 10 + (d.toNat - '0'.toNat)) 0 = numberOf 10 index.toList := by
    refine List.foldl_ext _ _ _ fun n c hc => ?_
    simp [hexDigit?, hdigits c hc, digitValue]
  have hsome : index.toList.isEmpty = false := by simp [hne]
  simp only [indexOfKey?, hplus, Option.getD_none, hall, hsome, hnumber, Bool.or_self, Bool.false_eq_true, ↓reduceIte]

/-- The way to a stage name leads to it. -/
theorem reach_stage {index : String} {n : Nat} (hindex : indexOfKey? index = some n) :
    reach i.templateValue ["StageNames", index] =
      .ok ((i.stageNames[n]?).elim .missing fun v => .reached ["StageNames", index] (.text v)) := by
  have hfollow : follow [index] (some (.ofTexts i.stageNames)) = .ok ((i.stageNames[n]?).map Value.text) := by
    simp only [follow, Value.ofTexts, stepInto?, hindex, List.getElem?_map]
    rfl
  show (follow [index] (some (.ofTexts i.stageNames)) >>= _) = _
  rw [hfollow]
  cases i.stageNames[n]? <;> rfl

theorem reach_stage_tooLarge {index : String} (hindex : indexOfKey? index = none) :
    reach i.templateValue ["StageNames", index] = .error (.notAnIndex index) := by
  have hfollow : follow [index] (some (.ofTexts i.stageNames)) = .error (.notAnIndex index) := by
    simp only [follow, Value.ofTexts, stepInto?, hindex]
    rfl
  show (follow [index] (some (.ofTexts i.stageNames)) >>= _) = _
  rw [hfollow]
  rfl

/-- No helper is named with a capital letter. -/
theorem helperNamed?_of_isUpper {name : String} (h : name.toList.head?.any Char.isUpper = true) :
    helperNamed? name = none := by
  unfold helperNamed?
  split
  case h_18 => rfl
  all_goals exact absurd h (by decide)

/-- A path is filled in with the value that it leads to. -/
theorem writeExpression_path {w : Path} (hname : w.written.toList.head?.any Char.isUpper = true) :
    writeExpression i.setting ⟨.path w, [], [], []⟩ p = do
      let found ← lookUp i.templateValue [{}] w
      if found.isMissing then throw (.noValue (some w.written))
      return write i.setting found.value.plain p := by
  have hnone := helperNamed?_of_isUpper hname
  have hfound : (Head.path w).evaluate i.setting = (lookUp i.templateValue [{}] w).map (⟨some w.written, ·⟩) := by
    show (lookUp i.templateValue [{}] w >>= _) = _
    cases lookUp i.templateValue [{}] w <;> rfl
  show (if (helperNamed? w.written).isSome then _ else writeValue i.setting ⟨.path w, [], [], []⟩ p) = _
  rw [hnone, writeValue, hfound]
  cases lookUp i.templateValue [{}] w <;> rfl

/-- A path that leads to a text, or nowhere, is filled in with the text or is a fault. -/
theorem writeExpression_path_text {w : Path} (hname : w.written.toList.head?.any Char.isUpper = true)
    {way : List String} {s : Option String}
    (hfound : lookUp i.templateValue [{}] w = .ok (s.elim .missing fun v => .reached way (.text v))) :
    writeExpression i.setting ⟨.path w, [], [], []⟩ p =
      s.elim (.error (.noValue (some w.written))) fun v => .ok (write i.setting v p) := by
  rw [writeExpression_path hname, hfound]
  cases s <;> rfl

/-- The fault of a reference that stands for no text. -/
def Template.Reference.fault : Reference → FaultKind
  | .name => .noValue (some "Name")
  | .tag key => .noValue (some ("Tags." ++ key))
  | .lookUp _ => .noValue none
  | .stage index =>
    if numberOf 10 index.toList < 1 <<< 64 then .noValue (some ("StageNames.[" ++ index ++ "]"))
    else .notAnIndex index

theorem writeExpression_tag (hkeys : (i.tags.map (·.1)).Nodup) (key : String) :
    writeExpression i.setting (Reference.tag key).reading p =
      ((Reference.tag key).textIn? i).elim (.error (Reference.tag key).fault) fun s => .ok (write i.setting s p) := by
  have hname : ("Tags." ++ key).toList.head?.any Char.isUpper = true := by
    rw [String.toList_append]
    rfl
  by_cases hthis : key = "this"
  · -- the path ends at the table of the tags
    subst hthis
    have htable : lookUp i.templateValue [{}] ⟨"Tags." ++ "this", [.key "Tags"]⟩ =
        .ok (.reached ["Tags"] (.ofTextTable (sortEntries i.tags))) := rfl
    show writeExpression i.setting ⟨.path ⟨"Tags." ++ "this", [.key "Tags"]⟩, [], [], []⟩ p = _
    rw [writeExpression_path hname, htable]
    rfl
  · have hstep : pathKey.stepOf key.toList = [.key key] := by
      rw [pathKey.stepOf, if_neg (mt String.toList_inj.1 hthis), String.ofList_toList]
    have htext : (Reference.tag key).textIn? i = entryOf? key i.tags := if_neg hthis
    let w : Path := ⟨"Tags." ++ key, .key "Tags" :: pathKey.stepOf key.toList⟩
    have hlook : lookUp i.templateValue [{}] w = reach i.templateValue ["Tags", key] := by
      show lookUp i.templateValue [{}] ⟨"Tags." ++ key, .key "Tags" :: pathKey.stepOf key.toList⟩ = _
      rw [hstep]
      rfl
    rw [htext]
    exact writeExpression_path_text (w := w) hname (hlook.trans (reach_tag hkeys key))

theorem writeExpression_lookUp (hkeys : (i.tags.map (·.1)).Nodup) (key : String) :
    writeExpression i.setting (Reference.lookUp key).reading p =
      (entryOf? key i.tags).elim (.error (.noValue none)) fun s => .ok (write i.setting s p) := by
  let call : Invocation :=
    ⟨"lookup",
      [⟨some "Tags", .reached ["Tags"] (.ofTextTable (sortEntries i.tags))⟩, ⟨none, .computed (.text key)⟩], []⟩
  have hcall : (Reference.lookUp key).reading.invocation i.setting = .ok call := rfl
  have hmember : call.member = (entryOf? key i.tags).elim (.error (.noValue none)) fun s => .ok (.text s) := by
    have hentry := entryOf?_sortEntries_tags hkeys key
    simp only [Invocation.member, Invocation.argument, call, List.getElem?_cons_zero, List.getElem?_cons_succ,
      Found.value, Value.ofTextTable, bind, Except.bind, hentry]
    cases entryOf? key i.tags <;> rfl
  show writeCall i.setting (Reference.lookUp key).reading p = _
  rw [writeCall, hcall]
  show (call.member.map some >>= _) = _
  rw [hmember]
  cases entryOf? key i.tags <;> rfl

theorem writeExpression_stage (hstages : i.stageNames.length ≤ UInt64.size) {index : String}
    (hindex : (Reference.stage index).IsWritable) :
    writeExpression i.setting (Reference.stage index).reading p =
      (i.stageNames[numberOf 10 index.toList]?).elim (.error (Reference.stage index).fault)
        fun s => .ok (write i.setting s p) := by
  let w : Path := ⟨"StageNames.[" ++ index ++ "]", [.key "StageNames", .key index]⟩
  have hname : w.written.toList.head?.any Char.isUpper = true := by
    show ("StageNames.[" ++ index ++ "]").toList.head?.any Char.isUpper = true
    rw [String.toList_append, String.toList_append]
    rfl
  have hnumber := indexOfKey?_digits hindex.1 hindex.2
  show writeExpression i.setting ⟨.path w, [], [], []⟩ p = _
  by_cases hsmall : numberOf 10 index.toList < 1 <<< 64
  · rw [if_pos hsmall] at hnumber
    have hfault : (Reference.stage index).fault = .noValue (some w.written) := if_pos hsmall
    rw [hfault]
    exact writeExpression_path_text hname (reach_stage hnumber)
  · rw [if_neg hsmall] at hnumber
    have hfault : (Reference.stage index).fault = .notAnIndex index := if_neg hsmall
    have hnone : i.stageNames[numberOf 10 index.toList]? = none := by
      have hword : UInt64.size = 1 <<< 64 := rfl
      apply List.getElem?_eq_none
      omega
    have hlook : lookUp i.templateValue [{}] w = .error (.notAnIndex index) := reach_stage_tooLarge hnumber
    rw [hfault, hnone, writeExpression_path hname, hlook]
    rfl

/-- **A reference is filled in with the text that it stands for.** -/
theorem writeExpression_reading (hkeys : (i.tags.map (·.1)).Nodup) (hstages : i.stageNames.length ≤ UInt64.size)
    {r : Reference} (hr : r.IsWritable) :
    writeExpression i.setting r.reading p =
      (r.textIn? i).elim (.error r.fault) fun s => .ok (write i.setting s p) := by
  cases r with
  | name =>
    have hfound : lookUp i.templateValue [{}] ⟨"Name", [.key "Name"]⟩ =
        .ok ((some i.canonicalName).elim .missing fun v => .reached ["Name"] (.text v)) := rfl
    exact writeExpression_path_text (by decide) hfound
  | tag key => exact writeExpression_tag hkeys key
  | lookUp key => exact writeExpression_lookUp hkeys key
  | stage index => exact writeExpression_stage hstages hr

end References

/-! ## Fragments -/

section Fragments

variable {i : Identity} {fs : List Fragment} {inclusions : Inclusions} {room : Nat}

/-- The text that a fragment stands for. -/
def Template.Fragment.textIn? (i : Identity) : Fragment → Option String
  | .text s => some s
  | .reference r => r.textIn? i

/-- Texts are written one behind the other. -/
theorem text_write (s : String) (p : Progress) : (write i.setting s p).output.text = p.output.text ++ s := by
  show (p.output.write "" s).text = _
  unfold Output.write
  split
  case isTrue hempty => simp [String.isEmpty_iff.1 hempty]
  case isFalse => simp

/-- What the parts for a text add is that text. -/
theorem renderParts_textParts (t : List Char) (parts : List Part) (p : Progress) :
    renderParts inclusions i.setting p (Fragment.textParts t ++ parts) =
      renderParts inclusions i.setting (write i.setting (String.ofList t) p) parts := by
  by_cases ht : t = []
  · simp [Fragment.textParts, ht, write]
  · rw [Fragment.textParts, if_neg ht, List.singleton_append, renderParts, renderPart]
    rfl

theorem renderTemplate_of_parts {s : String} {parts : Parts} (h : partsOfText? s = some parts) :
    renderTemplate room s i =
      (renderParts (.upTo room) i.setting ⟨{}, []⟩ parts).run.map
        fun done => (done.map (·.output.text)).mapError .rendering := by
  unfold renderTemplate
  rw [h]
  show (renderText room parts i.templateValue).map _ = _
  have htext : renderText room parts i.templateValue =
      (renderParts (.upTo room) i.setting ⟨{}, []⟩ parts).run.map (·.map (·.output.text)) := by
    show (renderParts (.upTo room) i.setting ⟨{}, []⟩ parts).run.bind _ = _
    rcases (renderParts (.upTo room) i.setting ⟨{}, []⟩ parts).run with _ | _ | _ <;> rfl
  rw [htext, Option.map_map]
  rfl

/-- A template in which no two braces open stands for itself. -/
theorem renderTemplate_unopened {s : String} (hs : ¬ opening 2 <:+: s.toList) :
    renderTemplate room s i = some (.ok s) := by
  have hparts : renderParts (.upTo room) i.setting ⟨{}, []⟩ (Fragment.textParts s.toList) =
      pure (write i.setting s ⟨{}, []⟩) := by
    rw [← List.append_nil (Fragment.textParts s.toList), renderParts_textParts, String.ofList_toList, renderParts]
  rw [renderTemplate_of_parts (partsOfText?_unopened hs), hparts]
  show some (Except.ok (write i.setting s ⟨{}, []⟩).output.text) = _
  rw [text_write]
  exact congrArg (some ∘ Except.ok) String.empty_append

-- the tags are a map, and the stage names can be counted in a machine word
variable (hkeys : (i.tags.map (·.1)).Nodup) (hstages : i.stageNames.length ≤ UInt64.size)

include hkeys hstages

/-- A reference writes its text before the parts behind it are filled in. -/
theorem renderParts_reading {r : Reference} (hr : r.IsWritable) (place : Template.Place) (parts : List Part)
    (p : Progress) :
    renderParts inclusions i.setting p (.expression place r.reading :: parts) =
      (r.textIn? i).elim (throw ⟨r.fault, some place⟩) fun s =>
        renderParts inclusions i.setting (write i.setting s p) parts := by
  rw [renderParts, renderPart, writeExpression_reading hkeys hstages hr]
  cases r.textIn? i <;> rfl

/-- **Fragments write the texts that they stand for.** -/
theorem renderParts_partsOf (hfs : ∀ f ∈ fs, f.IsReadable) {ts : List String}
    (htexts : fs.map (·.textIn? i) = ts.map some) (before t : List Char) (p : Progress) :
    ∃ done, renderParts inclusions i.setting p (Fragment.partsOf before t fs) = pure done ∧
      done.output.text = p.output.text ++ String.ofList t ++ String.join ts := by
  induction fs generalizing ts before t p with
  | nil =>
    obtain rfl : ts = [] := by simpa using htexts.symm
    refine ⟨write i.setting (String.ofList t) p, ?_, ?_⟩
    · rw [Fragment.partsOf, ← List.append_nil (Fragment.textParts t), renderParts_textParts, renderParts]
    · rw [text_write, String.join_nil, String.append_empty]
  | cons f fs ih =>
    obtain ⟨hf, hrest⟩ := List.forall_mem_cons.1 hfs
    obtain ⟨v, vs, rfl, hv, hvs⟩ := List.map_eq_cons_iff.1 htexts.symm
    rw [String.join_cons]
    cases f with
    | text s =>
      obtain rfl : s = v := Option.some.inj hv.symm
      obtain ⟨done, hdone, htext⟩ := ih hrest hvs.symm before (t ++ s.toList) p
      refine ⟨done, hdone, ?_⟩
      rw [htext, String.ofList_append, String.ofList_toList]
      simp only [String.append_assoc]
    | reference r =>
      have hr : r.textIn? i = some v := hv.symm
      obtain ⟨done, hdone, htext⟩ := ih hrest hvs.symm (r.written.reverse ++ (t.reverse ++ before)) []
        (write i.setting v (write i.setting (String.ofList t) p))
      refine ⟨done, ?_, ?_⟩
      · rw [Fragment.partsOf, renderParts_textParts, renderParts_reading hkeys hstages hf, hr]
        exact hdone
      · rw [htext, text_write, text_write]
        simp only [String.ofList_nil, String.append_empty, String.append_assoc]

/-- **A fragment that stands for no text is a fault of all of them.** -/
theorem renderParts_partsOf_error (hfs : ∀ f ∈ fs, f.IsReadable) (hmissing : ∃ f ∈ fs, f.textIn? i = none)
    (before t : List Char) (p : Progress) :
    ∃ fault, renderParts inclusions i.setting p (Fragment.partsOf before t fs) = throw fault := by
  induction fs generalizing before t p with
  | nil =>
    obtain ⟨f, hmem, -⟩ := hmissing
    cases hmem
  | cons f fs ih =>
    obtain ⟨hf, hrest⟩ := List.forall_mem_cons.1 hfs
    cases f with
    | text s =>
      have hlater := ((List.exists_mem_cons_iff ..).1 hmissing).resolve_left (Option.some_ne_none s)
      exact ih hrest hlater before (t ++ s.toList) p
    | reference r =>
      rw [Fragment.partsOf, renderParts_textParts, renderParts_reading hkeys hstages hf]
      cases hr : r.textIn? i with
      | none => exact ⟨_, rfl⟩
      | some v =>
        have hfirst : (Fragment.reference r).textIn? i ≠ none := fun h => Option.some_ne_none v (hr.symm.trans h)
        exact ih hrest (((List.exists_mem_cons_iff ..).1 hmissing).resolve_left hfirst) _ _ _

theorem renderTemplate_template (hfs : ∀ f ∈ fs, f.IsReadable) {ts : List String}
    (htexts : fs.map (·.textIn? i) = ts.map some) :
    renderTemplate room (Fragment.template fs) i = some (.ok (String.join ts)) := by
  obtain ⟨done, hdone, htext⟩ := renderParts_partsOf hkeys hstages hfs htexts [] [] ⟨{}, []⟩
  have hwritten : done.output.text = String.join ts := by
    rw [htext, String.ofList_nil, String.append_empty]
    exact String.empty_append
  rw [renderTemplate_of_parts (partsOfText?_template hfs), hdone, ← hwritten]
  rfl

theorem renderTemplate_template_error (hfs : ∀ f ∈ fs, f.IsReadable) (hmissing : ∃ f ∈ fs, f.textIn? i = none) :
    ∃ fault, renderTemplate room (Fragment.template fs) i = some (.error (.rendering fault)) := by
  obtain ⟨fault, hfault⟩ := renderParts_partsOf_error hkeys hstages hfs hmissing [] [] ⟨{}, []⟩
  refine ⟨fault, ?_⟩
  rw [renderTemplate_of_parts (partsOfText?_template hfs), hfault]
  rfl

end Fragments

/-! ## Templates -/

section Templates

variable {i : Identity}

/-- **A template of texts and references is filled in with the texts that its references stand for**, each as it is, and
is a fault where one of them stands for none. A template in which no two braces open stands for itself. None of this
asks for room for inclusions. The tags are a map, and the stage names can be counted in a machine word. -/
theorem renderTemplate_substitutes (room : Nat) (hkeys : (i.tags.map (·.1)).Nodup)
    (hstages : i.stageNames.length ≤ UInt64.size) :
    (∀ fs : List Fragment, (∀ f ∈ fs, f.IsReadable) →
      ((∃ s, renderTemplate room (Fragment.template fs) i = some (.ok s)) ↔ ∀ f ∈ fs, f.textIn? i ≠ none) ∧
      (∀ ts, fs.map (·.textIn? i) = ts.map some →
        renderTemplate room (Fragment.template fs) i = some (.ok (String.join ts))) ∧
      ((∃ f ∈ fs, f.textIn? i = none) →
        ∃ fault, renderTemplate room (Fragment.template fs) i = some (.error (.rendering fault)))) ∧
    ∀ s : String, ¬ opening 2 <:+: s.toList → renderTemplate room s i = some (.ok s) := by
  refine ⟨fun fs hfs => ⟨⟨?_, ?_⟩, ?_, ?_⟩, fun s hs => renderTemplate_unopened hs⟩
  · rintro ⟨s, hs⟩ f hmem hnone
    obtain ⟨fault, hfault⟩ := renderTemplate_template_error hkeys hstages hfs ⟨f, hmem, hnone⟩
    rw [hs] at hfault
    cases hfault
  · intro hall
    have htexts : fs.map (·.textIn? i) = (fs.map fun f => (f.textIn? i).getD "").map some := by
      rw [List.map_map]
      refine List.map_congr_left fun f hf => ?_
      obtain ⟨v, hv⟩ := Option.ne_none_iff_exists'.1 (hall f hf)
      simp [hv]
    exact ⟨_, renderTemplate_template hkeys hstages hfs htexts⟩
  · exact fun ts htexts => renderTemplate_template hkeys hstages hfs htexts
  · exact renderTemplate_template_error hkeys hstages hfs

/-- A tag and a stage name are filled in as they are, braces and all; a tag that the service lacks is a fault. -/
theorem renderTemplate_of_orders :
    let i : Identity :=
      { id := "a1", rawName := "orders-v1", region := "us-west-2", stageNames := ["v1", "v2"],
        tags := [("STAGE", "v1"), ("cost:team", "{{Name}} & <co>")] }
    let found : List Fragment :=
      [.reference .name, .text " at\n", .reference (.lookUp "cost:team"), .text ", ", .reference (.tag "STAGE"),
        .reference (.stage "01")]
    let missing : List Fragment := [.reference .name, .reference (.tag "owner")]
    (i.tags.map (·.1)).Nodup ∧ i.stageNames.length ≤ UInt64.size ∧ (∀ f ∈ found ++ missing, f.IsReadable) ∧
      renderTemplate 0 (Fragment.template found) i = some (.ok "orders at\n{{Name}} & <co>, v1v2") ∧
      (∃ fault, renderTemplate 0 (Fragment.template missing) i = some (.error (.rendering fault))) ∧
      renderTemplate 0 "a {b} \\\x7b c" i = some (.ok "a {b} \\\x7b c") := by
  intro i found missing
  have hkeys : (i.tags.map (·.1)).Nodup := by decide
  have hstages : i.stageNames.length ≤ UInt64.size := by decide
  have hreadable : ∀ f ∈ found ++ missing, f.IsReadable := by decide +kernel
  obtain ⟨hfragments, hunopened⟩ := renderTemplate_substitutes 0 hkeys hstages
  obtain ⟨-, hfilled, -⟩ := hfragments found fun f hf => hreadable f (List.mem_append_left _ hf)
  obtain ⟨-, -, hfault⟩ := hfragments missing fun f hf => hreadable f (List.mem_append_right _ hf)
  refine ⟨hkeys, hstages, hreadable, ?_, ?_, ?_⟩
  · exact hfilled ["orders", " at\n", "{{Name}} & <co>", ", ", "v1", "v2"] (by decide +kernel)
  · exact hfault ⟨.reference (.tag "owner"), by decide +kernel, by decide +kernel⟩
  · exact hunopened _ (by decide +kernel)

/-- A path cannot lead to a tag with the key `this`. -/
theorem renderTemplate_tag_this :
    let i : Identity :=
      { id := "a1", rawName := "api", region := "us-west-2", stageNames := [], tags := [("this", "x")] }
    let fs : List Fragment := [.reference (.tag "this")]
    (∀ f ∈ fs, f.IsReadable) ∧ entryOf? "this" i.tags = some "x" ∧
      ∀ room, renderTemplate room (Fragment.template fs) i = some (.ok "[object]") ∧
        renderTemplate room (Fragment.template fs) i ≠ some (.ok "x") := by
  intro i fs
  have hreadable : ∀ f ∈ fs, f.IsReadable := by decide +kernel
  refine ⟨hreadable, by decide, fun room => ?_⟩
  have hobject : renderTemplate room (Fragment.template fs) i = some (.ok (String.join ["[object]"])) :=
    renderTemplate_template (by decide) (by decide) hreadable rfl
  rw [hobject]
  exact ⟨rfl, by decide⟩

end Templates

end GatewayRegistrar
