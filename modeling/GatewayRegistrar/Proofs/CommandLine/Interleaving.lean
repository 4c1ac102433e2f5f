import GatewayRegistrar.Proofs.CommandLine.Flags

/-!
# Flags of an invocation

An invocation that registers services is written with a flag for each thing that it asks for (`Invocation.flags`). All
that is read off a command line are the values of each key, so flags that keep those of each key in their order
(`Interleaves`) say the same, wherever the command stands among those that go with every command
(`parse_interleaved`).
-/

namespace GatewayRegistrar.CommandLine

/-! ## The flags of an invocation -/

/-- The flags for options, one for each entry of a list. -/
def Options.flags (o : Options) : List Flag :=
  o.region?.toList.map .region ++ o.filters.map .filter ++ o.exclusions.map .exclude ++ o.tags.map .tag
    ++ o.sleep?.toList.map .sleep ++ o.address?.toList.map .address

/-- The flags for a command. -/
def Command.flags : Command → List Flag
  | .run o => o.flags
  | .sync o dryRun resources? =>
    o.flags ++ (if dryRun then [.dryRun] else []) ++ resources?.toList.map .resources
  | _ => []

/-- The flags for an invocation. -/
def Invocation.flags (i : Invocation) : List Flag :=
  i.command.flags ++ i.config?.toList.map .config ++ (if i.verbose then [.verbose] else [])
    ++ (if i.logJson then [.logJson] else [])

/-- **The flags are the given ones in some order** that keeps those about one thing in theirs. -/
def Interleaves (flags given : List Flag) : Prop := ∀ k, flags.filter (·.key = k) = given.filter (·.key = k)

variable {flags before after : List Flag} {given later : Given} {f : Flag} {o : Options} {i : Invocation}

theorem Interleaves.mem_iff {asked : List Flag} (h : Interleaves flags asked) : f ∈ flags ↔ f ∈ asked := by
  have hkey : ∀ fs : List Flag, f ∈ fs ↔ f ∈ fs.filter (·.key = f.key) := by
    intro fs
    rw [List.mem_filter, decide_eq_true_iff, and_iff_left rfl]
  rw [hkey flags, h f.key, ← hkey asked]

theorem Interleaves.valuesOf_eq {asked : List Flag} (h : Interleaves flags asked) (k : Key) :
    valuesOf k (entries flags) = valuesOf k (entries asked) := by
  rw [valuesOf_entries, valuesOf_entries, h k]

/-! ## What counts of what is given -/

/-- The keys of the flags that go with every command. -/
def globalKeys : List Key := [.config, .verbose, .logJson]

theorem key_mem_globalKeys (h : f.isGlobal = true) : f.key ∈ globalKeys := by
  cases f with
  | config file => exact List.mem_cons_self
  | verbose | logJson => decide
  | _ => cases h

theorem valuesOf_global {k : Key} (h : ∀ f ∈ flags, f.isGlobal = true) (hk : k ∉ globalKeys) :
    valuesOf k (entries flags) = [] := by
  rw [valuesOf_entries, List.map_eq_nil_iff, List.filter_eq_nil_iff]
  intro f hf heq
  exact hk (of_decide_eq_true heq ▸ key_mem_globalKeys (h f hf))

theorem isGiven_eq (k : Key) (given : Given) : isGiven k given = !(valuesOf k given).isEmpty := by
  rw [Bool.eq_iff_iff]
  simp [isGiven, valuesOf]

/-! ## What the flags of an invocation say -/

/-- The values of flags for the entries of a list. -/
theorem valuesOf_map {α : Type} (mk : α → Flag) {k' : Key} (hk : ∀ a, (mk a).key = k') (k : Key) (as : List α) :
    valuesOf k (entries (as.map mk)) = if k' = k then as.map fun a => (mk a).value else [] := by
  have hkeys : (fun f : Flag => decide (f.key = k)) ∘ mk = fun _ => decide (k' = k) := by
    funext a
    rw [Function.comp_apply, hk]
  rw [valuesOf_entries, List.filter_map, List.map_map, hkeys]
  by_cases h : k' = k
  · rw [if_pos h, decide_eq_true h, List.filter_eq_self.2 fun _ _ => rfl]
    rfl
  · rw [if_neg h, decide_eq_false h, List.filter_eq_nil_iff.2 fun _ _ => Bool.false_ne_true, List.map_nil]

/-- The values of a flag without one. -/
theorem valuesOf_ite (b : Bool) (f : Flag) (k : Key) :
    valuesOf k (entries (if b then [f] else [])) = if f.key = k ∧ b = true then [f.value] else [] := by
  cases b <;> by_cases h : f.key = k <;> simp [valuesOf_entries, h]

theorem entries_append (flags more : List Flag) : entries (flags ++ more) = entries flags ++ entries more :=
  List.map_append ..

theorem valuesOf_options (o : Options) (k : Key) :
    valuesOf k (entries o.flags) = match k with
      | .region => o.region?.toList
      | .filter => o.filters
      | .exclude => o.exclusions
      | .tag => o.tags
      | .sleep => o.sleep?.toList.map fun n => String.ofList (decimalText n)
      | .address => o.address?.toList
      | _ => [] := by
  simp only [Options.flags, entries_append, valuesOf_append, valuesOf_map Flag.region fun _ => rfl,
    valuesOf_map Flag.filter fun _ => rfl, valuesOf_map Flag.exclude fun _ => rfl, valuesOf_map Flag.tag fun _ => rfl,
    valuesOf_map Flag.sleep fun _ => rfl, valuesOf_map Flag.address fun _ => rfl]
  cases k <;> simp [Flag.value]

theorem valuesOf_command (c : Command) (k : Key) :
    valuesOf k (entries c.flags) = match c with
      | .run o => valuesOf k (entries o.flags)
      | .sync o dryRun resources? =>
        match k with
        | .dryRun => if dryRun then [""] else []
        | .resources => resources?.toList
        | k => valuesOf k (entries o.flags)
      | _ => [] := by
  cases c with
  | run o => rfl
  | sync o dryRun resources? =>
    simp only [Command.flags, entries_append, valuesOf_append, valuesOf_ite,
      valuesOf_map Flag.resources fun _ => rfl]
    cases k <;> simp [Flag.value, Flag.key, valuesOf_options]
  | _ => rfl

/-- A command says nothing about what goes with every command. -/
theorem valuesOf_command_global (c : Command) {k : Key} (hk : k ∈ globalKeys) :
    valuesOf k (entries c.flags) = [] := by
  rw [valuesOf_command]
  simp only [globalKeys, List.mem_cons, List.not_mem_nil, or_false] at hk
  rcases hk with rfl | rfl | rfl <;> cases c <;> simp only [valuesOf_options]

/-- **The values of each key** among the flags of an invocation. -/
theorem valuesOf_invocation (i : Invocation) (k : Key) :
    valuesOf k (entries i.flags) = match k with
      | .config => i.config?.toList
      | .verbose => if i.verbose then [""] else []
      | .logJson => if i.logJson then [""] else []
      | k => valuesOf k (entries i.command.flags) := by
  have hcommand : ∀ k ∈ globalKeys, valuesOf k (entries i.command.flags) = [] := fun _ =>
    valuesOf_command_global i.command
  simp only [globalKeys, List.forall_mem_cons] at hcommand
  simp only [Invocation.flags, entries_append, valuesOf_append, valuesOf_ite, valuesOf_map Flag.config fun _ => rfl]
  cases k with
  | config | verbose | logJson => simp [Flag.value, Flag.key, hcommand]
  | _ => simp [Flag.key]

/-! ## Reading them -/

/-- The options that the flags for them say. -/
theorem optionsOf_flags (hsleep : ∀ n ∈ o.sleep?, n < UInt64.size)
    (h : ∀ k ∈ [Key.region, .filter, .exclude, .tag, .sleep, .address],
      valuesOf k given = valuesOf k (entries o.flags)) : optionsOf given = o := by
  simp only [List.forall_mem_cons, valuesOf_options] at h
  obtain ⟨hregion, hfilter, hexclude, htag, hsleeps, haddress, -⟩ := h
  obtain ⟨region?, filters, exclusions, tags, sleep?, address?⟩ := o
  have hlast : ∀ v? : Option String, v?.toList.getLast? = v? := fun v? => by cases v? <;> rfl
  simp only [optionsOf, valueOf?, hregion, hfilter, hexclude, htag, hsleeps, haddress, hlast, Options.mk.injEq,
    true_and, and_true]
  cases sleep? with
  | none => rfl
  | some n =>
    have hfits : n < wordBound := hsleep n rfl
    simpa using wholeBelow?_decimalText hfits

theorem commandOf?_run (hsleep : ∀ n ∈ o.sleep?, n < UInt64.size)
    (h : ∀ k, k ∉ globalKeys → valuesOf k given = valuesOf k (entries (Command.run o).flags)) :
    commandOf? given .run = some (.run o) := by
  have hoptions : optionsOf given = o := optionsOf_flags hsleep fun k hk => h k (by revert k; decide)
  rw [commandOf?, hoptions]

theorem commandOf?_sync {dryRun : Bool} {resources? : Option String} (hsleep : ∀ n ∈ o.sleep?, n < UInt64.size)
    (h : ∀ k, k ∉ globalKeys → valuesOf k given = valuesOf k (entries (Command.sync o dryRun resources?).flags)) :
    commandOf? given .sync = some (.sync o dryRun resources?) := by
  have hoptions : optionsOf given = o := by
    refine optionsOf_flags hsleep fun k hk => ?_
    rw [h k (by revert k; decide), valuesOf_command]
    revert k
    simp
  have hdry : isGiven .dryRun given = dryRun := by
    rw [isGiven_eq, h .dryRun (by decide), valuesOf_command]
    cases dryRun <;> rfl
  have hresources : valueOf? .resources given = resources? := by
    rw [valueOf?, h .resources (by decide), valuesOf_command]
    cases resources? <;> rfl
  rw [commandOf?, hoptions, hdry, hresources]

/-- **An invocation is read back** from flags that say what it asks for. -/
theorem invocationOf?_flags {level : Level}
    (hvalues : ∀ k, valuesOf k (entries (before ++ after)) = valuesOf k (entries i.flags))
    (hcommand : commandOf? (entries after) level = some i.command) :
    invocationOf? [(.program, entries before), (level, entries after)] = some i := by
  have hall : [(Level.program, entries before), (level, entries after)].flatMap (·.2) = entries (before ++ after) := by
    simp [entries_append]
  have hconfig : valueOf? .config (entries (before ++ after)) = i.config? := by
    rw [valueOf?, hvalues, valuesOf_invocation]
    cases i.config? <;> rfl
  have hverbose : isGiven .verbose (entries (before ++ after)) = i.verbose := by
    rw [isGiven_eq, hvalues, valuesOf_invocation]
    cases i.verbose <;> rfl
  have hlogJson : isGiven .logJson (entries (before ++ after)) = i.logJson := by
    rw [isGiven_eq, hvalues, valuesOf_invocation]
    cases i.logJson <;> rfl
  simp only [invocationOf?, hall, hconfig, hverbose, hlogJson, List.getLast?_cons_cons, List.getLast?_singleton,
    Option.bind_eq_bind, Option.bind_some, hcommand]
  rfl

/-! ## Parsing -/

section Members

variable {P : Flag → Prop}

theorem forall_mem_ite (b : Bool) (f : Flag) : (∀ g ∈ (if b then [f] else []), P g) ↔ (b = true → P f) := by
  cases b <;> simp

theorem forall_mem_options (o : Options) :
    (∀ f ∈ o.flags, P f) ↔ (∀ v ∈ o.region?, P (.region v)) ∧ (∀ v ∈ o.filters, P (.filter v)) ∧
      (∀ v ∈ o.exclusions, P (.exclude v)) ∧ (∀ v ∈ o.tags, P (.tag v)) ∧ (∀ n ∈ o.sleep?, P (.sleep n)) ∧
      ∀ v ∈ o.address?, P (.address v) := by
  simp only [Options.flags, List.forall_mem_append, List.forall_mem_map, Option.mem_toList, Option.mem_def, and_assoc]

theorem forall_mem_sync (o : Options) (dryRun : Bool) (resources? : Option String) :
    (∀ f ∈ (Command.sync o dryRun resources?).flags, P f) ↔ (∀ f ∈ o.flags, P f) ∧ (dryRun = true → P .dryRun) ∧
      ∀ v ∈ resources?, P (.resources v) := by
  simp only [Command.flags, List.forall_mem_append, List.forall_mem_map, Option.mem_toList, Option.mem_def,
    forall_mem_ite, and_assoc]

theorem forall_mem_invocation (i : Invocation) :
    (∀ f ∈ i.flags, P f) ↔ (∀ f ∈ i.command.flags, P f) ∧ (∀ v ∈ i.config?, P (.config v)) ∧
      (i.verbose = true → P .verbose) ∧ (i.logJson = true → P .logJson) := by
  simp only [Invocation.flags, List.forall_mem_append, List.forall_mem_map, Option.mem_toList, Option.mem_def,
    forall_mem_ite, and_assoc]

end Members

/-- The flags of an invocation hold what may not be repeated once at most. -/
theorem isSingle_flags (i : Invocation) : IsSingle (entries i.flags) := by
  intro f hf
  have hite : ∀ b : Bool, (if b then [""] else []).length ≤ 1 := by decide
  rw [valuesOf_invocation]
  cases f with
  | filter | exclude | tag => cases hf
  | config => simp [Flag.key]
  | verbose | logJson => exact hite _
  | _ =>
    simp only [Flag.key, valuesOf_command, valuesOf_options]
    cases i.command <;> simp [hite]

/-- Flags on both sides of a word that leads to a command. -/
theorem readLevel_around {level : Level} {word : String} (hword : Level.program.next? word = some level)
    (hcommand : level.isGroup = false ∧ level.operand? = none)
    (hbefore : ∀ f ∈ before, f.switch ∈ Level.program.switches) (hafter : ∀ f ∈ after, f.switch ∈ level.switches)
    (hsound : ∀ f ∈ before ++ after, f.IsSound) (hsingle : IsSingle (entries before))
    (hsingle' : IsSingle (entries after)) :
    readLevel .program {} (before.map Flag.word ++ word :: after.map Flag.word) =
      .ok [(.program, entries before), (level, entries after)] := by
  have hsounds := List.forall_mem_append.1 hsound
  have hinner : readLevel level {} (after.map Flag.word) = .ok [(level, entries after)] := by
    rw [← List.append_nil (after.map Flag.word), readLevel_flags hafter hsounds.2 hsingle']
    simp only [readLevel, Progress.finish, Progress.settle, hcommand]
    rfl
  rw [readLevel_flags hbefore hsounds.1 hsingle]
  simp only [readLevel, Progress.waiting?, hword, hinner]
  rfl

/-- Flags for sound options are sound. -/
theorem isSound_of_mem_options (hsleep : ∀ n ∈ o.sleep?, n < UInt64.size) : ∀ f ∈ o.flags, f.IsSound :=
  (forall_mem_options o).2
    ⟨fun _ _ => trivial, fun _ _ => trivial, fun _ _ => trivial, fun _ _ => trivial, hsleep, fun _ _ => trivial⟩

theorem switch_mem_program (h : f.isGlobal = true) : f.switch ∈ Level.program.switches := by
  cases f with
  | config | verbose | logJson => simp [Flag.switch, Level.switches]
  | _ => cases h

theorem switch_mem_run (h : i.command = .run o) : ∀ f ∈ i.flags, f.switch ∈ Level.run.switches := by
  rw [forall_mem_invocation, h, Command.flags, forall_mem_options]
  simp [Flag.switch, Level.switches]

theorem switch_mem_sync (f : Flag) : f.switch ∈ Level.sync.switches := by
  cases f <;> simp [Flag.switch, Level.switches]

/-- **Flags in any order say what they are asked to say**: an invocation is read back from the words of its flags, with
some of those that go with every command in front of the command. -/
theorem parse_interleaved {level : Level} {word : String} (hword : Level.program.next? word = some level)
    (hlevel : level.isGroup = false ∧ level.operand? = none) (hoffered : ∀ f ∈ i.flags, f.switch ∈ level.switches)
    (hsound : ∀ f ∈ i.flags, f.IsSound) (hbefore : ∀ f ∈ before, f.isGlobal = true)
    (hflags : Interleaves (before ++ after) i.flags)
    (hcommand : ∀ given, (∀ k, k ∉ globalKeys → valuesOf k given = valuesOf k (entries i.command.flags)) →
      commandOf? given level = some i.command) :
    parse (before.map Flag.word ++ word :: after.map Flag.word) = .ok i := by
  have hvalues := hflags.valuesOf_eq
  have hsingle : ∀ f : Flag, f.switch.isRepeatable = false →
      (valuesOf f.key (entries before)).length + (valuesOf f.key (entries after)).length ≤ 1 := by
    intro f hf
    have hone := isSingle_flags i f hf
    rwa [← hvalues, entries_append, valuesOf_append, List.length_append] at hone
  have hown : ∀ k, k ∉ globalKeys → valuesOf k (entries after) = valuesOf k (entries i.command.flags) := by
    intro k hk
    have hafter := hvalues k
    rw [entries_append, valuesOf_append, valuesOf_global hbefore hk, List.nil_append, valuesOf_invocation] at hafter
    rw [hafter]
    revert hk
    cases k with
    | config | verbose | logJson => exact fun hk => absurd (by decide) hk
    | _ => exact fun _ => rfl
  have hbefore' : IsSingle (entries before) := by
    intro f hf
    have hone := hsingle f hf
    omega
  have hafter' : IsSingle (entries after) := by
    intro f hf
    have hone := hsingle f hf
    omega
  have hread := readLevel_around hword hlevel (fun f hf => switch_mem_program (hbefore f hf))
    (fun f hf => hoffered f (hflags.mem_iff.1 (List.mem_append_right _ hf)))
    (fun f hf => hsound f (hflags.mem_iff.1 hf)) hbefore' hafter'
  simp only [parse, hread, bind, Except.bind, invocationOf?_flags hvalues (hcommand _ hown)]

/-- **Command lines are read back.** The flags for any options, the configuration file and the two that concern the log,
each written as one word with its value behind an equals sign, and for a single cycle those for a dry run and for a file
of resources, may stand in any order behind the command, as long as the entries of each list keep theirs; those that go
with every command may stand in front of it too. Such a command line is read, and as what it was written for. -/
theorem flags_in_any_order (o : Options) (config? resources? : Option String) (verbose logJson dryRun : Bool)
    (before after : List Flag) (hsleep : ∀ n ∈ o.sleep?, n < UInt64.size) (hconfig : ∀ file ∈ config?, file ≠ "")
    (hresources : ∀ file ∈ resources?, file ≠ "") (hbefore : ∀ f ∈ before, f.isGlobal = true) :
    (Interleaves (before ++ after) (Invocation.flags ⟨config?, verbose, logJson, .run o⟩) →
      parse (before.map Flag.word ++ "run" :: after.map Flag.word) = .ok ⟨config?, verbose, logJson, .run o⟩) ∧
    (Interleaves (before ++ after) (Invocation.flags ⟨config?, verbose, logJson, .sync o dryRun resources?⟩) →
      parse (before.map Flag.word ++ "sync" :: after.map Flag.word) =
        .ok ⟨config?, verbose, logJson, .sync o dryRun resources?⟩) := by
  have hsound := isSound_of_mem_options hsleep
  refine ⟨fun hflags => ?_, fun hflags => ?_⟩
  · refine parse_interleaved (by decide) (by decide) (switch_mem_run rfl) ?_ hbefore hflags
      fun _ h => commandOf?_run hsleep h
    exact (forall_mem_invocation _).2 ⟨hsound, hconfig, fun _ => trivial, fun _ => trivial⟩
  · refine parse_interleaved (by decide) (by decide) (fun f _ => switch_mem_sync f) ?_ hbefore hflags
      fun _ h => commandOf?_sync hsleep h
    have hcommand := (forall_mem_sync o dryRun resources?).2 ⟨hsound, fun _ => trivial, hresources⟩
    exact (forall_mem_invocation _).2 ⟨hcommand, hconfig, fun _ => trivial, fun _ => trivial⟩

/-- Flags of a single cycle out of their usual order, with values that hold separators and hyphens. -/
theorem flags_of_dry_run :
    let o : Options :=
      { region? := some "-west", filters := ["Name=tag:env,Values=prod", "--tag=x"], tags := ["{{Name}},=b"]
        sleep? := some 30 }
    let before : List Flag := [.verbose]
    let after : List Flag :=
      [.filter "Name=tag:env,Values=prod", .sleep 30, .config "c.toml", .tag "{{Name}},=b", .dryRun, .filter "--tag=x",
        .region "-west"]
    let i : Invocation := ⟨some "c.toml", true, false, .sync o true none⟩
    ((∀ n ∈ o.sleep?, n < UInt64.size) ∧ (∀ file ∈ some "c.toml", file ≠ "") ∧
      (∀ file ∈ (none : Option String), file ≠ "") ∧ (∀ f ∈ before, f.isGlobal = true) ∧
        Interleaves (before ++ after) i.flags) ∧
      before.map Flag.word ++ "sync" :: after.map Flag.word =
        ["--verbose", "sync", "--filter=Name=tag:env,Values=prod", "--sleep=30", "--config=c.toml", "--tag={{Name}},=b",
          "--dry-run", "--filter=--tag=x", "--aws-region=-west"] ∧
      parse (before.map Flag.word ++ "sync" :: after.map Flag.word) = .ok i := by
  intro o before after i
  have hsleep : ∀ n ∈ o.sleep?, n < UInt64.size := by simp [o, UInt64.size]
  have hconfig : ∀ file ∈ some "c.toml", file ≠ "" := by simp
  have hresources : ∀ file ∈ (none : Option String), file ≠ "" := by simp
  have hbefore : ∀ f ∈ before, f.isGlobal = true := by decide
  have hflags : Interleaves (before ++ after) i.flags := by
    intro k
    cases k <;> decide +kernel
  exact ⟨⟨hsleep, hconfig, hresources, hbefore, hflags⟩, by decide +kernel,
    (flags_in_any_order o (some "c.toml") none true false true before after hsleep hconfig hresources hbefore).2 hflags⟩

end GatewayRegistrar.CommandLine
