import GatewayRegistrar.Proofs.Cycle.Watching

/-!
# The log of a watch

A watch tells of a cycle while it runs and how it has ended when it is over; then comes the pause. `Accounts` says that
what has been told since the last pause fits the end of the cycle: there are as many events of each kind as the report
says. This is so for one cycle (`accounts_runCycle`), and `LogFits` carries it along the rounds of a watch
(`logFits_rounds`): the log behind a pause is that of a watch that starts there.
-/

namespace GatewayRegistrar

variable {σ : Type}

/-! ## Views of a log -/

/-- The events with a message. -/
def withMessage (m : String) (log : List Event) : List Event := log.filter (·.message == m)

/-- What has been told since the last pause began. -/
def sincePause (log : List Event) : List Event := (log.reverse.takeWhile (·.message != "Sleeping")).reverse

/-- How a cycle has ended, if this is what the event tells. -/
def Event.outcome? : Event → Option (Except ListingFault Report)
  | cycleComplete report => some (.ok report)
  | cycleFailed fault => some (.error fault)
  | _ => none

/-- How the cycles have ended, in their order. -/
def outcomesIn (log : List Event) : List (Except ListingFault Report) := log.filterMap Event.outcome?

/-- The messages of a plan about filters, exclusions and templates. -/
def selectionMessages : List String :=
  ["Ignoring malformed filter", "Invalid filter pattern", "Excluded by filter", "Skipping tag template"]

/-- The messages of a plan. -/
def planMessages : List String := ["RestAPI", "Skipping resource", "Filtered services"] ++ selectionMessages

/-- The messages of a cycle until it is over. -/
def cycleMessages : List String := planMessages ++ ["Registering service", "Failed to register"]

/-- The messages of a watch between its cycles. -/
def pauseMessages : List String :=
  ["Starting gateway watch", "Received signal", "Shutdown signal received", "Immediate sync requested"]

/-- Every event has one of the messages. -/
def Speaks (ms : List String) (log : List Event) : Prop := ∀ e ∈ log, e.message ∈ ms

section Speaking

variable {m : String} {ms ns : List String} {xs ys : List Event}

theorem Speaks.append (hx : Speaks ms xs) (hy : Speaks ms ys) : Speaks ms (xs ++ ys) :=
  List.forall_mem_append.2 ⟨hx, hy⟩

theorem Speaks.mono (h : Speaks ms xs) (hsub : ∀ m ∈ ms, m ∈ ns) : Speaks ns xs := fun e he => hsub _ (h e he)

/-- No event has a message that is not among those that are used. -/
theorem Speaks.withMessage_eq_nil (h : Speaks ms xs) (hm : m ∉ ms) : withMessage m xs = [] :=
  List.filter_eq_nil_iff.2 fun e he heq => hm (by rw [← beq_iff_eq.1 heq]; exact h e he)

/-- An event with another message is not there. -/
theorem Speaks.notMem {e : Event} (h : Speaks ms xs) (he : e.message ∉ ms) : e ∉ xs := fun hmem => he (h e hmem)

theorem withMessage_append (m : String) (xs ys : List Event) :
    withMessage m (xs ++ ys) = withMessage m xs ++ withMessage m ys :=
  List.filter_append ..

theorem message_of_outcome? {e : Event} {o : Except ListingFault Report} (h : e.outcome? = some o) :
    e.message ∈ ["Cycle complete", "Cycle failed"] := by
  cases e with
  | cycleComplete report => exact List.mem_cons_self
  | cycleFailed fault => exact List.mem_cons_of_mem _ List.mem_cons_self
  | _ => cases h

/-- Nothing is told of the end of a cycle. -/
theorem Speaks.outcomesIn_eq_nil (h : Speaks ms xs) (hcomplete : "Cycle complete" ∉ ms)
    (hfailed : "Cycle failed" ∉ ms) : outcomesIn xs = [] := by
  refine List.filterMap_eq_nil_iff.2 fun e he => ?_
  cases ho : e.outcome? with
  | none => rfl
  | some o =>
    have hm := message_of_outcome? ho
    simp only [List.mem_cons, List.not_mem_nil, or_false] at hm
    rcases hm with hm | hm
    · exact absurd (hm ▸ h e he) hcomplete
    · exact absurd (hm ▸ h e he) hfailed

theorem Speaks.sincePause_eq (h : Speaks ms xs) (hm : "Sleeping" ∉ ms) : sincePause xs = xs := by
  have hall : ∀ e ∈ xs.reverse, (e.message != "Sleeping") = true := fun e he =>
    bne_iff_ne.2 fun heq => hm (heq ▸ h e (List.mem_reverse.1 he))
  rw [sincePause, ← List.append_nil xs.reverse, List.takeWhile_append_of_pos hall, List.takeWhile_nil, List.append_nil,
    List.reverse_reverse]

end Speaking

/-- Nothing counts that was told before a pause began. -/
theorem sincePause_append (xs ys : List Event) (pause : Interval) :
    sincePause (xs ++ .sleeping pause :: ys) = sincePause ys := by
  have htake : ∀ zs : List Event, (zs ++ .sleeping pause :: xs.reverse).takeWhile (·.message != "Sleeping") =
      zs.takeWhile (·.message != "Sleeping") := fun zs => by
    induction zs with
    | nil => rfl
    | cons e zs ih => rw [List.cons_append, List.takeWhile_cons, List.takeWhile_cons, ih]
  have hreverse : (xs ++ .sleeping pause :: ys).reverse = ys.reverse ++ .sleeping pause :: xs.reverse := by simp
  rw [sincePause, hreverse, htake, sincePause]

/-! ## Refusals -/

/-- Each refusal that is told stands directly behind the offer of the same registration. -/
def RefusalsFollow (log : List Event) : Prop :=
  ∀ before behind r fault, log = before ++ .registrationFailed r fault :: behind →
    ∃ front, before = front ++ [.registering r]

theorem refusalsFollow_of_speaks {ms : List String} {log : List Event} (h : Speaks ms log)
    (hm : "Failed to register" ∉ ms) : RefusalsFollow log := fun before behind r fault heq =>
  absurd (h (.registrationFailed r fault) (heq ▸ by simp)) hm

theorem RefusalsFollow.append {xs ys : List Event} (hx : RefusalsFollow xs) (hy : RefusalsFollow ys) :
    RefusalsFollow (xs ++ ys) := by
  intro before behind r fault heq
  rcases List.append_eq_append_iff.1 heq with ⟨middle, rfl, hys⟩ | ⟨middle, rfl, hbehind⟩
  · obtain ⟨front, rfl⟩ := hy _ _ _ _ hys
    exact ⟨xs ++ front, (List.append_assoc ..).symm⟩
  · cases middle with
    | nil =>
      obtain ⟨front, hfront⟩ := hy [] behind r fault hbehind.symm
      simp at hfront
    | cons e middle =>
      obtain ⟨rfl, -⟩ := List.cons.inj hbehind
      exact hx _ _ _ _ rfl

theorem Offer.refusalsFollow_events (o : Offer) : RefusalsFollow o.events := by
  obtain ⟨p, fault?⟩ := o
  intro before behind r fault heq
  cases before with
  | nil => cases heq
  | cons e before =>
    -- the first event is the offer, so a refusal is the second and last one
    obtain ⟨rfl, htail⟩ := List.cons.inj heq
    cases fault? with
    | none => exact absurd htail.symm (List.append_ne_nil_of_right_ne_nil _ (List.cons_ne_nil _ _))
    | some f =>
      rcases List.append_eq_cons_iff.1 htail.symm with ⟨rfl, hrefusal⟩ | ⟨_, rfl, hnil⟩
      · cases hrefusal
        exact ⟨[], rfl⟩
      · exact absurd hnil.symm (List.append_ne_nil_of_right_ne_nil _ (List.cons_ne_nil _ _))

theorem refusalsFollow_offers (os : List Offer) : RefusalsFollow (os.flatMap Offer.events) := by
  induction os with
  | nil =>
    intro before behind r fault heq
    exact absurd heq.symm (List.append_ne_nil_of_right_ne_nil _ (List.cons_ne_nil _ _))
  | cons o os ih => exact o.refusalsFollow_events.append ih

/-! ## Offers -/

theorem speaks_offers (os : List Offer) :
    Speaks ["Registering service", "Failed to register"] (os.flatMap Offer.events) := by
  intro e he
  obtain ⟨o, _, he⟩ := List.mem_flatMap.1 he
  rcases List.mem_cons.1 he with rfl | he
  · exact List.mem_cons_self
  · obtain ⟨fault, _, rfl⟩ := List.mem_map.1 he
    exact List.mem_cons_of_mem _ List.mem_cons_self

theorem withMessage_registering (os : List Offer) :
    withMessage "Registering service" (os.flatMap Offer.events) = os.map (.registering ·.registration) := by
  induction os with
  | nil => rfl
  | cons o os ih =>
    obtain ⟨r, fault?⟩ := o
    rw [List.flatMap_cons, withMessage_append, ih]
    cases fault? <;> rfl

theorem length_withMessage_failed (os : List Offer) :
    (withMessage "Failed to register" (os.flatMap Offer.events)).length = os.countP (!·.isTaken) := by
  induction os with
  | nil => rfl
  | cons o os ih =>
    obtain ⟨r, fault?⟩ := o
    rw [List.flatMap_cons, withMessage_append, List.length_append, ih, List.countP_cons, Nat.add_comm]
    cases fault? <;> rfl

namespace Settings

variable (s : Settings) (room : Nat)

/-! ## Plans -/

theorem speaks_identities (ios : List (Except IdentityFault Identity)) :
    Speaks ["RestAPI", "Skipping resource"] (ios.map identityEvent) := by
  intro e he
  obtain ⟨io, _, rfl⟩ := List.mem_map.1 he
  cases io <;> simp [identityEvent, Event.message]

theorem length_withMessage_listed (ios : List (Except IdentityFault Identity)) :
    (withMessage "RestAPI" (ios.map identityEvent)).length = (ios.filterMap (·.toOption)).length := by
  induction ios with
  | nil => rfl
  | cons io ios ih =>
    cases io with
    | error fault => exact ih
    | ok i => exact congrArg (· + 1) ih

theorem length_withMessage_skipped (ios : List (Except IdentityFault Identity)) :
    (withMessage "Skipping resource" (ios.map identityEvent)).length = ios.countP (!·.isOk) := by
  induction ios with
  | nil => rfl
  | cons io ios ih =>
    cases io with
    | error fault => exact (congrArg (· + 1) ih).trans (List.countP_cons_of_pos rfl).symm
    | ok i => exact ih.trans (List.countP_cons_of_neg Bool.false_ne_true).symm

theorem speaks_filters (es : List String) :
    Speaks ["Ignoring malformed filter", "Invalid filter pattern"] (es.filterMap filterEvent?) := by
  intro e he
  obtain ⟨expression, _, he⟩ := List.mem_filterMap.1 he
  unfold filterEvent? at he
  split at he
  · cases he
  · rename_i fault _
    cases he
    cases fault <;> simp [Event.message]

theorem speaks_templates (room : Nat) (fs : List Filling) :
    Speaks ["Skipping tag template"] (fs.filterMap (·.event? room)) := by
  intro e he
  obtain ⟨f, _, he⟩ := List.mem_filterMap.1 he
  unfold Filling.event? at he
  split at he
  · cases he
    exact List.mem_singleton.2 rfl
  · cases he

/-- What a plan tells of its resources and of the number of its services, among what it tells of filters and
templates. -/
theorem planEvents_eq (resources : List Resource) :
    ∃ filters templates : List Event, Speaks selectionMessages filters ∧ Speaks selectionMessages templates ∧
      s.planEvents room resources = (s.identities resources).map identityEvent ++ filters ++
        ([.servicesFiltered (s.services resources).length (s.eligible resources).length] ++ templates) := by
  refine ⟨s.filters.filterMap filterEvent? ++ s.exclusions.filterMap filterEvent? ++
    ((FilterSet.ofTexts s.filters s.exclusions).dropped (s.services resources)).map .serviceExcluded,
    ((s.fillings (s.eligible resources)).takeWhile (·.hasResult room)).filterMap (·.event? room), ?_, ?_, ?_⟩
  · refine (((speaks_filters _).append (speaks_filters _)).mono (by decide)).append fun e he => ?_
    obtain ⟨i, _, rfl⟩ := List.mem_map.1 he
    simp [Event.message, selectionMessages]
  · exact (speaks_templates room _).mono (by decide)
  · simp only [planEvents, List.append_assoc]

theorem speaks_servicesFiltered (candidates remaining : Nat) :
    Speaks ["Filtered services"] [.servicesFiltered candidates remaining] := by
  simp [Speaks, Event.message]

theorem speaks_planEvents (resources : List Resource) : Speaks planMessages (s.planEvents room resources) := by
  obtain ⟨filters, templates, hfilters, htemplates, hplan⟩ := s.planEvents_eq room resources
  rw [hplan]
  exact (((speaks_identities _).mono (by decide)).append (hfilters.mono (by decide))).append
    (((speaks_servicesFiltered _ _).mono (by decide)).append (htemplates.mono (by decide)))

/-- The events of a plan with a message that is about neither pauses nor filters, exclusions and templates. -/
theorem withMessage_planEvents {lead : List Event} (hlead : Speaks pauseMessages lead) (resources : List Resource)
    {m : String} (hm : m ∉ pauseMessages ++ selectionMessages) :
    withMessage m (lead ++ s.planEvents room resources) =
      withMessage m ((s.identities resources).map identityEvent) ++
        withMessage m [.servicesFiltered (s.services resources).length (s.eligible resources).length] := by
  obtain ⟨filters, templates, hfilters, htemplates, hplan⟩ := s.planEvents_eq room resources
  rw [List.mem_append, not_or] at hm
  simp only [hplan, withMessage_append, hlead.withMessage_eq_nil hm.1, hfilters.withMessage_eq_nil hm.2,
    htemplates.withMessage_eq_nil hm.2, List.nil_append, List.append_nil]

/-! ## One cycle -/

/-- **What is told of a cycle fits its report**, for the resources that were listed and their plan. -/
structure Reported (resources : List Resource) (p : Plan) (report : Report) (told : List Event) : Prop where
  planned : s.plan room resources = some p
  skipped : (withMessage "Skipping resource" told).length = report.skipped
  listed : (withMessage "RestAPI" told).length = report.discovered - report.skipped
  filtered : withMessage "Filtered services" told =
    [.servicesFiltered (report.discovered - report.skipped) report.eligible]
  registering : withMessage "Registering service" told = p.registrations.map .registering
  offered : (withMessage "Registering service" told).length = report.eligible
  failed : (withMessage "Failed to register" told).length = report.failed
  refusals : RefusalsFollow told
  registered : report.registered = report.eligible - report.failed
  bounds : report.skipped ≤ report.discovered ∧ report.failed ≤ report.eligible
  discovered : report.discovered = resources.length

/-- What is told of a cycle fits the listing it had and the way it ended. -/
inductive Accounts : Listing → Except ListingFault Report → List Event → Prop
  | complete {resources : List Resource} {p : Plan} {report : Report} {told : List Event} :
      s.Reported room resources p report told → Accounts (.ok resources) (.ok report) told
  | failed {fault : ListingFault} {told : List Event} :
      (∀ m ∈ cycleMessages, withMessage m told = []) → Accounts (.error fault) (.error fault) told

/-- What is told of a plan and of the offers that are made by it. -/
theorem withMessage_planEvents_offers {lead : List Event} (hlead : Speaks pauseMessages lead)
    (resources : List Resource) (os : List Offer) {m : String} (hm : m ∉ pauseMessages ++ selectionMessages) :
    withMessage m (lead ++ (s.planEvents room resources ++ os.flatMap Offer.events)) =
      withMessage m ((s.identities resources).map identityEvent) ++
        withMessage m [.servicesFiltered (s.services resources).length (s.eligible resources).length] ++
          withMessage m (os.flatMap Offer.events) := by
  rw [← s.withMessage_planEvents room hlead resources hm, ← withMessage_append, List.append_assoc]

/-- The resources that are not skipped are the services. -/
theorem length_services_add_skipped (resources : List Resource) :
    (s.services resources).length + (s.planReport resources).skipped = resources.length := by
  show ((s.identities resources).filterMap (·.toOption)).length + (s.identities resources).countP (!·.isOk) = _
  have hlength : (resources.map (Identity.ofResource · s.region)).length = resources.length := List.length_map ..
  rw [identities, ← hlength]
  generalize resources.map (Identity.ofResource · s.region) = ios
  induction ios with
  | nil => rfl
  | cons io ios ih =>
    rw [List.length_cons, ← ih]
    cases io <;> simp [Except.toOption, Except.isOk, Except.toBool] <;> omega

/-- **The offers of a plan fit it**, whichever of them are taken. -/
theorem reported_offers {lead : List Event} (hlead : Speaks pauseMessages lead) {resources : List Resource} {p : Plan}
    (hp : s.plan room resources = some p) {os : List Offer} (hos : os.map (·.registration) = p.registrations) :
    s.Reported room resources p
      { p.report with registered := os.countP (·.isTaken), failed := os.countP (!·.isTaken) }
      (lead ++ (s.planEvents room resources ++ os.flatMap Offer.events)) := by
  have htold (m : String) := s.withMessage_planEvents_offers room hlead resources os (m := m)
  have hidentities := speaks_identities (s.identities resources)
  have hfiltered := speaks_servicesFiltered (s.services resources).length (s.eligible resources).length
  have hoffers := speaks_offers os
  have hlength : os.length = p.report.eligible := by
    rw [← length_registrations_of_plan hp, ← hos, List.length_map]
  have htaken := taken_add_refused os
  have hservices := s.length_services_add_skipped resources
  have hreport : p.report = s.planReport resources := (plan_eq_some_iff.1 hp).2
  have hdiscovered : p.report.discovered = resources.length := congrArg Report.discovered hreport
  have heligible : p.report.eligible = (s.eligible resources).length := congrArg Report.eligible hreport
  have hcandidates : (s.services resources).length = p.report.discovered - p.report.skipped := by
    rw [hreport] at hdiscovered ⊢
    omega
  have hregistering : withMessage "Registering service"
      (lead ++ (s.planEvents room resources ++ os.flatMap Offer.events)) = p.registrations.map .registering := by
    rw [htold _ (by decide), hidentities.withMessage_eq_nil (by decide), hfiltered.withMessage_eq_nil (by decide),
      withMessage_registering, ← hos, List.map_map]
    rfl
  exact
    { planned := hp
      skipped := by
        rw [htold _ (by decide), hfiltered.withMessage_eq_nil (by decide), hoffers.withMessage_eq_nil (by decide),
          List.append_nil, List.append_nil, length_withMessage_skipped, hreport]
        rfl
      listed := by
        rw [htold _ (by decide), hfiltered.withMessage_eq_nil (by decide), hoffers.withMessage_eq_nil (by decide),
          List.append_nil, List.append_nil, length_withMessage_listed]
        exact hcandidates
      filtered := by
        rw [htold _ (by decide), hidentities.withMessage_eq_nil (by decide), hoffers.withMessage_eq_nil (by decide),
          List.append_nil, List.nil_append, hcandidates, ← heligible]
        rfl
      registering := hregistering
      offered := by
        rw [hregistering, List.length_map]
        exact length_registrations_of_plan hp
      failed := by
        rw [htold _ (by decide), hidentities.withMessage_eq_nil (by decide), hfiltered.withMessage_eq_nil (by decide)]
        exact length_withMessage_failed _
      refusals := (refusalsFollow_of_speaks hlead (by decide)).append
        ((refusalsFollow_of_speaks (s.speaks_planEvents room resources) (by decide)).append (refusalsFollow_offers os))
      registered := Nat.eq_sub_of_add_eq (htaken.trans hlength)
      bounds := by
        refine ⟨?_, ?_⟩
        · show p.report.skipped ≤ p.report.discovered
          rw [hreport]
          show (s.planReport resources).skipped ≤ resources.length
          omega
        · show os.countP (!·.isTaken) ≤ p.report.eligible
          omega
      discovered := hdiscovered }

variable (sink : Sink σ)

theorem speaks_cycleEvents (listing : Listing) (state : σ) :
    Speaks cycleMessages (s.cycleEvents room listing (s.runCycle room sink listing state)) := by
  cases listing with
  | error fault => exact fun _ h => by cases h
  | ok resources =>
    exact ((s.speaks_planEvents room resources).mono (by decide)).append ((speaks_offers _).mono (by decide))

/-- **What a cycle tells fits the way it ends**, behind anything that was told in a pause. -/
theorem accounts_runCycle {lead : List Event} (hlead : Speaks pauseMessages lead) {listing : Listing} {state : σ}
    {o : Except ListingFault Report} (ho : (s.runCycle room sink listing state).outcome? = some o) :
    s.Accounts room listing o (lead ++ s.cycleEvents room listing (s.runCycle room sink listing state)) := by
  cases listing with
  | error fault =>
    obtain rfl : Except.error fault = o := Option.some.inj ho
    have hdisjoint : ∀ m ∈ cycleMessages, m ∉ pauseMessages := by decide
    exact .failed fun m hm => by
      rw [cycleEvents, List.append_nil, hlead.withMessage_eq_nil (hdisjoint m hm)]
  | ok resources =>
    cases hp : s.plan room resources with
    | none =>
      rw [s.runCycle_of_none room sink hp] at ho
      cases ho
    | some p =>
      rw [s.runCycle_of_plan room sink hp] at ho ⊢
      obtain rfl := Option.some.inj ho
      exact .complete (s.reported_offers room hlead hp (offerAll_registrations sink state p.registrations))

/-! ## Rounds -/

variable (interval : Interval) (listings : Nat → Listing)

/-- **The log fits the listings from cycle `n` on.** Wherever it tells how a cycle has ended, that is the only end of a
cycle since the last pause, what has been told since then fits it, and the next pause follows. -/
def LogFits (n : Nat) (log : List Event) : Prop :=
  ∀ before e o behind, log = before ++ e :: behind → Event.outcome? e = some o →
    s.Accounts room (listings (n + (outcomesIn before).length)) o (sincePause before) ∧
      outcomesIn (sincePause before) = [] ∧ ∃ rest, behind = .sleeping interval :: rest

theorem outcome?_outcomeEvent (o : Except ListingFault Report) : (outcomeEvent o).outcome? = some o := by
  cases o <;> rfl

/-- Where nothing is told of the end of a cycle, there is nothing to fit. -/
theorem logFits_of_speaks {ms : List String} {log : List Event} (h : Speaks ms log) (hcomplete : "Cycle complete" ∉ ms)
    (hfailed : "Cycle failed" ∉ ms) (n : Nat) : s.LogFits room interval listings n log := by
  intro before e o behind hlog ho
  have hnone := h.outcomesIn_eq_nil hcomplete hfailed
  rw [hlog, outcomesIn, List.filterMap_append, List.filterMap_cons_some ho] at hnone
  exact absurd hnone (List.append_ne_nil_of_right_ne_nil _ (List.cons_ne_nil _ _))

/-- An element that is not before `x` is `x` itself or stands behind it. -/
theorem split_at_or_behind {α : Type} {xs ys before behind : List α} {x e : α}
    (h : xs ++ x :: ys = before ++ e :: behind) (he : e ∉ xs) :
    before = xs ∧ e = x ∧ behind = ys ∨ ∃ later, before = xs ++ x :: later ∧ ys = later ++ e :: behind := by
  induction xs generalizing before with
  | nil =>
    cases before with
    | nil =>
      obtain ⟨rfl, rfl⟩ := List.cons.inj h
      exact .inl ⟨rfl, rfl, rfl⟩
    | cons b before =>
      obtain ⟨rfl, rfl⟩ := List.cons.inj h
      exact .inr ⟨before, rfl, rfl⟩
  | cons z xs ih =>
    cases before with
    | nil =>
      obtain ⟨rfl, -⟩ := List.cons.inj h
      exact absurd List.mem_cons_self he
    | cons b before =>
      obtain ⟨rfl, htail⟩ := List.cons.inj h
      rcases ih htail (List.not_mem_of_not_mem_cons he) with ⟨rfl, hx⟩ | ⟨later, rfl, hys⟩
      · exact .inl ⟨rfl, hx⟩
      · exact .inr ⟨later, rfl, hys⟩

/-- **One more cycle before a log.** -/
theorem LogFits.before {n : Nat} {told log : List Event} {o : Except ListingFault Report}
    (hlog : s.LogFits room interval listings (n + 1) log) (htold : Speaks (pauseMessages ++ cycleMessages) told)
    (ho : s.Accounts room (listings n) o told) :
    s.LogFits room interval listings n (told ++ outcomeEvent o :: .sleeping interval :: log) := by
  have hnone : outcomesIn told = [] := htold.outcomesIn_eq_nil (by decide) (by decide)
  intro before e p behind heq hp
  have hends : ∀ m ∈ ["Cycle complete", "Cycle failed"], m ∉ pauseMessages ++ cycleMessages := by decide
  rcases split_at_or_behind heq (htold.notMem (hends _ (message_of_outcome? hp))) with
    ⟨rfl, rfl, rfl⟩ | ⟨later, rfl, hlater⟩
  · -- the end of this cycle
    rw [outcome?_outcomeEvent] at hp
    cases hp
    rw [hnone, htold.sincePause_eq (by decide)]
    exact ⟨ho, hnone, log, rfl⟩
  · -- the end of a later cycle, which stands behind the pause
    have hsleeping : (Event.sleeping interval).outcome? = none := rfl
    cases later with
    | nil =>
      obtain ⟨rfl, rfl⟩ := List.cons.inj hlater
      cases hp
    | cons f later =>
      obtain ⟨rfl, hlog'⟩ := List.cons.inj hlater
      have hcount : n + (outcomesIn (told ++ outcomeEvent o :: .sleeping interval :: later)).length =
          n + 1 + (outcomesIn later).length := by
        rw [outcomesIn, List.filterMap_append, List.filterMap_cons_some (outcome?_outcomeEvent o),
          List.filterMap_cons_none hsleeping, ← outcomesIn, hnone, List.nil_append, List.length_cons, outcomesIn]
        omega
      have hpause : sincePause (told ++ outcomeEvent o :: .sleeping interval :: later) = sincePause later := by
        rw [List.append_cons, sincePause_append]
      rw [hcount, hpause]
      exact hlog later e p behind hlog' hp

theorem speaks_pause (p : Pause) : Speaks pauseMessages p.events := by
  cases p with
  | elapsed => exact fun _ h => by cases h
  | cut g => cases g <;> simp [Speaks, Pause.events, Signal.stops, Event.message, pauseMessages]

section OneRound

variable {n : Nat} {state : σ}

/-- What is told in the round of a cycle that breaks off. -/
theorem rounds_of_broken (h : (s.runCycle room sink (listings n) state).outcome? = none) (p : Pause)
    (ps : List Pause) :
    (s.rounds room sink interval listings n state (p :: ps)).cycles = [s.runCycle room sink (listings n) state] ∧
      (s.rounds room sink interval listings n state (p :: ps)).events =
        s.cycleEvents room (listings n) (s.runCycle room sink (listings n) state) := by
  have hend := (s.isSome_outcome? room sink (listings n) state).symm.trans (Option.isSome_eq_false_iff.2 (by simp [h]))
  rw [s.rounds_of_not_comesToEnd room sink listings state interval n p ps hend]
  exact ⟨rfl, by rw [roundEvents, h, List.append_nil]⟩

/-- What is told in the round of a cycle that comes to its end, and in the rounds behind it. -/
theorem rounds_of_ended {o : Except ListingFault Report}
    (h : (s.runCycle room sink (listings n) state).outcome? = some o) (p : Pause) (ps : List Pause) :
    ∃ later : Watch σ,
      (later = s.rounds room sink interval listings (n + 1) (s.runCycle room sink (listings n) state).state ps ∨
        later.cycles = [] ∧ later.events = []) ∧
      (s.rounds room sink interval listings n state (p :: ps)).cycles =
        s.runCycle room sink (listings n) state :: later.cycles ∧
      (s.rounds room sink interval listings n state (p :: ps)).events =
        s.cycleEvents room (listings n) (s.runCycle room sink (listings n) state) ++
          outcomeEvent o :: .sleeping interval :: (p.events ++ later.events) := by
  have hend := (s.isSome_outcome? room sink (listings n) state).symm.trans (Option.isSome_of_mem h)
  cases hp : p.stops with
  | true =>
    refine ⟨⟨state, [], [], none⟩, .inr ⟨rfl, rfl⟩, ?_⟩
    rw [s.rounds_of_stops room sink listings state interval n p ps hend hp]
    simp only [roundEvents, h, List.append_assoc, List.cons_append, List.nil_append, List.append_nil, and_self]
  | false =>
    refine ⟨_, .inl rfl, ?_⟩
    rw [s.rounds_of_goesOn room sink listings state interval n p ps hend hp]
    simp only [roundEvents, h, List.append_assoc, List.cons_append, List.nil_append, and_self]

end OneRound

/-- **The log of any number of rounds fits**, behind anything that was told in a pause. -/
theorem logFits_rounds {lead : List Event} (hlead : Speaks pauseMessages lead) (n : Nat) (state : σ)
    (pauses : List Pause) :
    s.LogFits room interval listings n (lead ++ (s.rounds room sink interval listings n state pauses).events) := by
  induction pauses generalizing n state lead with
  | nil =>
    rw [rounds, List.append_nil]
    exact s.logFits_of_speaks room interval listings hlead (by decide) (by decide) n
  | cons p ps ih =>
    have htold : Speaks (pauseMessages ++ cycleMessages)
        (lead ++ s.cycleEvents room (listings n) (s.runCycle room sink (listings n) state)) :=
      (hlead.mono (by decide)).append ((s.speaks_cycleEvents room sink _ _).mono (by decide))
    cases ho : (s.runCycle room sink (listings n) state).outcome? with
    | none =>
      rw [(s.rounds_of_broken room sink interval listings ho p ps).2]
      exact s.logFits_of_speaks room interval listings htold (by decide) (by decide) n
    | some o =>
      obtain ⟨later, hlater, _, hevents⟩ := s.rounds_of_ended room sink interval listings ho p ps
      rw [hevents, ← List.append_assoc]
      refine LogFits.before s room interval listings ?_ htold (s.accounts_runCycle room sink hlead ho)
      rcases hlater with rfl | ⟨_, hnil⟩
      · exact ih (speaks_pause p) (n + 1) _
      · rw [hnil, List.append_nil]
        exact s.logFits_of_speaks room interval listings (speaks_pause p) (by decide) (by decide) _

/-- The log tells of the end of each cycle that comes to one, in their order. -/
theorem outcomesIn_rounds (n : Nat) (state : σ) (pauses : List Pause) :
    outcomesIn (s.rounds room sink interval listings n state pauses).events =
      (s.rounds room sink interval listings n state pauses).cycles.filterMap (·.outcome?) := by
  induction pauses generalizing n state with
  | nil => rfl
  | cons p ps ih =>
    have hcycle := (s.speaks_cycleEvents room sink (listings n) state).outcomesIn_eq_nil (by decide) (by decide)
    cases ho : (s.runCycle room sink (listings n) state).outcome? with
    | none =>
      obtain ⟨hcycles, hevents⟩ := s.rounds_of_broken room sink interval listings ho p ps
      rw [hcycles, hevents, hcycle, List.filterMap_cons_none ho, List.filterMap_nil]
    | some o =>
      obtain ⟨later, hlater, hcycles, hevents⟩ := s.rounds_of_ended room sink interval listings ho p ps
      have hsleeping : (Event.sleeping interval).outcome? = none := rfl
      have hpause := (speaks_pause p).outcomesIn_eq_nil (by decide) (by decide)
      have hrest : outcomesIn later.events = later.cycles.filterMap (·.outcome?) := by
        rcases hlater with rfl | ⟨hcycles, hevents⟩
        · exact ih (n + 1) _
        · rw [hcycles, hevents]
          rfl
      simp only [outcomesIn] at hcycle hpause hrest ⊢
      rw [hevents, hcycles, List.filterMap_append, hcycle, List.nil_append,
        List.filterMap_cons_some (outcome?_outcomeEvent _), List.filterMap_cons_none hsleeping, List.filterMap_append,
        hpause, List.nil_append, hrest, List.filterMap_cons_some ho]

/-- **The log and the reports of a watch agree.** The log tells of the end of each cycle that comes to one, in their
order, and each of these events is followed by a pause. Where it tells of a report, the resources of that cycle were
listed and planned for, and since the last pause it has told of as many skipped resources, listed services, offers and
refusals as the report counts, once of the selection with the numbers of the report, and of the offers in the order of
the plan; each refusal stands directly behind the offer of the same registration. Where it tells of a listing that has
failed, it has told of nothing else since the last pause. -/
theorem log_fits_reports (state : σ) (pauses : List Pause) :
    outcomesIn (s.watch room sink interval listings state pauses).events =
        (s.watch room sink interval listings state pauses).cycles.filterMap (·.outcome?) ∧
    (∀ before report behind,
      (s.watch room sink interval listings state pauses).events = before ++ .cycleComplete report :: behind →
        ∃ resources p, listings (outcomesIn before).length = .ok resources ∧
          s.Reported room resources p report (sincePause before) ∧ outcomesIn (sincePause before) = [] ∧
          ∃ rest, behind = .sleeping interval :: rest) ∧
    ∀ before fault behind,
      (s.watch room sink interval listings state pauses).events = before ++ .cycleFailed fault :: behind →
        listings (outcomesIn before).length = .error fault ∧
          (∀ m ∈ cycleMessages, withMessage m (sincePause before) = []) ∧ outcomesIn (sincePause before) = [] ∧
          ∃ rest, behind = .sleeping interval :: rest := by
  have hstart : Speaks pauseMessages [.watchStarted interval] := by simp [Speaks, Event.message, pauseMessages]
  have hfits := s.logFits_rounds room sink interval listings hstart 0 state pauses
  refine ⟨s.outcomesIn_rounds room sink interval listings 0 state pauses, fun before report behind heq => ?_,
    fun before fault behind heq => ?_⟩
  · obtain ⟨haccounts, hnone, hrest⟩ := hfits before _ (.ok report) behind heq rfl
    rw [Nat.zero_add] at haccounts
    generalize hlisting : listings (outcomesIn before).length = listing at haccounts
    cases haccounts with
    | complete hreported => exact ⟨_, _, rfl, hreported, hnone, hrest⟩
  · obtain ⟨haccounts, hnone, hrest⟩ := hfits before _ (.error fault) behind heq rfl
    rw [Nat.zero_add] at haccounts
    generalize hlisting : listings (outcomesIn before).length = listing at haccounts
    cases haccounts with
    | failed hsilent => exact ⟨rfl, hsilent, hnone, hrest⟩

end Settings

end GatewayRegistrar
