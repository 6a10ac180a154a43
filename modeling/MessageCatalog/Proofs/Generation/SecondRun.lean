import MessageCatalog.Proofs.Generation.Settled

/-!
# Running twice

A run that is not forced leaves its outputs settled: each exists and is current, read-only or
maintained by hand. A second run that finds the outputs of all its includes settled leaves every one
of them alone.

**Results.**
* `Rests`: the actions that leave their outputs alone; sequences and loops of such actions are of
  that kind again.
* `emitBundle_rests`: nothing is written of a bundle whose outputs are settled.
* `Covers.rests`: includes that have been processed without a failure are left alone the next time.
* `second_run_writes_nothing`: the second run writes nothing, fails nowhere and warns of nothing.
-/

namespace MessageCatalog

open FileTree RunState

namespace Generation

section Resting

/-- Outputs have been left alone, in order, and nothing has been warned of. -/
structure LeavesAlone (outputs : List Path) (s s' : RunState) : Prop where
  tree : s'.tree = s.tree
  events : ∃ new, s'.events = s.events ++ new ∧ new.map RunEvent.output = outputs ∧
    ∀ e ∈ new, ∃ p reason, e = .skipped p reason
  warnings : LogRecord.warnings s'.context.log = LogRecord.warnings s.context.log

namespace LeavesAlone

variable {outputs outputs' : List Path} {s t u : RunState}

theorem refl (s : RunState) : LeavesAlone [] s s :=
  ⟨rfl, ⟨[], by simp, rfl, by simp⟩, rfl⟩

theorem trans (h : LeavesAlone outputs s t) (h' : LeavesAlone outputs' t u) :
    LeavesAlone (outputs ++ outputs') s u := by
  obtain ⟨new, hnew, houtputs, hskipped⟩ := h.events
  obtain ⟨new', hnew', houtputs', hskipped'⟩ := h'.events
  refine ⟨h'.tree.trans h.tree, ⟨new ++ new', ?_, ?_, ?_⟩, h'.warnings.trans h.warnings⟩
  · rw [hnew', hnew, List.append_assoc]
  · rw [List.map_append, houtputs, houtputs']
  · intro e he
    rcases List.mem_append.mp he with he | he
    · exact hskipped e he
    · exact hskipped' e he

end LeavesAlone

/-- In the tree the action succeeds and leaves the outputs alone. -/
def Rests (t : FileTree) (outputs : List Path) (x : Action Unit) : Prop :=
  ∀ s, s.tree = t → ∃ s', outcome x s = (.ok ⟨⟩, s') ∧ LeavesAlone outputs s s'

namespace Rests

variable {t : FileTree} {outputs outputs' : List Path} {x y : Action Unit}

theorem pure : Rests t [] (Pure.pure ⟨⟩) :=
  fun s _ => ⟨s, rfl, .refl s⟩

theorem seq (hx : Rests t outputs x) (hy : Rests t outputs' y) :
    Rests t (outputs ++ outputs') (do x; y) := by
  intro s hs
  obtain ⟨s₁, hxs, hleaves⟩ := hx s hs
  obtain ⟨s₂, hys, hleaves'⟩ := hy s₁ (hleaves.tree.trans hs)
  exact ⟨s₂, by rw [outcome_bind_of_ok hxs, hys], hleaves.trans hleaves'⟩

theorem forM {α : Type} {f : α → Action Unit} {outputs : α → List Path} {as : List α}
    (hf : ∀ a ∈ as, Rests t (outputs a) (f a)) : Rests t (as.flatMap outputs) (ForM.forM as f) := by
  induction as with
  | nil => exact pure
  | cons a as ih =>
      rw [List.forM_cons, List.flatMap_cons]
      exact (hf a List.mem_cons_self).seq (ih fun b hb => hf b (List.mem_cons_of_mem a hb))

/-- A question that has an answer. -/
theorem ask {α : Type} {question : FileTree → Except FileError α} {a : α}
    (ha : question t = .ok a) {f : α → Action Unit} (hf : Rests t outputs (f a)) :
    Rests t outputs (Action.ask question >>= f) := by
  intro s hs
  obtain ⟨s', hfs, hleaves⟩ := hf s hs
  rw [← hs] at ha
  exact ⟨s', Action.ask_bind_eq_ok.mpr ⟨a, ha, hfs⟩, hleaves⟩

/-- A result that does not depend on the state. -/
theorem ofExcept {α : Type} {e : Except Failure α} {a : α} (ha : e = .ok a) {f : α → Action Unit}
    (hf : Rests t outputs (f a)) : Rests t outputs (Action.ofExcept e >>= f) := by
  intro s hs
  obtain ⟨s', hfs, hleaves⟩ := hf s hs
  exact ⟨s', Action.ofExcept_bind_eq_ok.mpr ⟨a, ha, hfs⟩, hleaves⟩

theorem skip (output : Path) (reason : Text) : Rests t [output] (Action.skip output reason) := by
  intro s _
  refine ⟨_, Action.outcome_skip output reason s, rfl, ⟨[.skipped output reason], rfl, rfl, ?_⟩, ?_⟩
  · simp
  · simp [Context.record, LogRecord.warnings, LogRecord.of]

/-- An output that is current or read-only. -/
theorem writeIfStale {output : Path} {decision : Decision} (content : Action Bytes)
    (h : decision.isCurrent = true ∨ t.isReadOnly output = .ok true) :
    Rests t [output] (Generation.writeIfStale output decision content) := by
  unfold Generation.writeIfStale
  by_cases hcurrent : decision.isCurrent = true
  · rw [if_pos hcurrent]
    exact skip output decision.reason
  · rw [if_neg hcurrent]
    refine ask (h.resolve_left hcurrent) ?_
    rw [if_pos rfl]
    exact skip output _

end Rests

end Resting

section Includes

section Includes

variable {k : Task} {includeTime : Time} {t : FileTree}

/-- An output that exists and is not due is found to be current, unless it is protected. -/
theorem decision_of_not_isDue {o : Output} {p : Path} {sourceTime : Time}
    (hforce : k.configuration.force = false) (hfiles : k.files o = [p])
    (hthere : t.has p = .ok true) (hidle : ¬ k.IsDue t o sourceTime) :
    ∃ d, Decision.ofOutput t sourceTime p k.configuration.force = .ok d ∧
      (d.isCurrent = true ∨ k.IsProtected t o) := by
  obtain ⟨e, he⟩ := has_eq_true.mp hthere
  have htime := timeOf_of_lookup he
  rw [hforce, Decision.ofOutput_of_timeOf htime]
  refine ⟨_, rfl, ?_⟩
  by_cases hle : sourceTime ≤ e.time
  · rw [if_pos hle]
    exact Or.inl rfl
  · refine Or.inr (Classical.byContradiction fun hprotected =>
      hidle ⟨Or.inr ⟨p, ?_, ?_⟩, hprotected⟩)
    · rw [hfiles]
      exact List.mem_singleton.mpr rfl
    · exact Or.inr ⟨e.time, htime, Int.not_le.mp hle⟩

theorem rests_emit {o : Output} {p : Path} (hforce : k.configuration.force = false)
    (hfiles : k.files o = [p])
    (hsource : ∀ time, k.SourceTime includeTime t o time → time = includeTime)
    (hprotected : k.IsProtected t o → t.isReadOnly p = .ok true)
    (h : k.IsSettled includeTime t o) (rendering : Rendering Text) :
    Rests t [p] (emit k p includeTime rendering) := by
  obtain ⟨hthere, sourceTime, htime, hidle⟩ := h
  obtain rfl := hsource sourceTime htime
  have hp : t.has p = .ok true := hthere p (by rw [hfiles]; exact List.mem_singleton.mpr rfl)
  obtain ⟨d, hd, hkept⟩ := decision_of_not_isDue hforce hfiles hp hidle
  exact .ask hd (.writeIfStale _ (hkept.imp_right hprotected))

theorem rests_emitClass (hforce : k.configuration.force = false) {locale : Option Locale}
    (h : k.IsSettled includeTime t (.classFile locale)) (rendering : Rendering Text) :
    Rests t [k.classFile locale] (emit k (k.classFile locale) includeTime rendering) :=
  rests_emit (o := .classFile locale) hforce rfl (fun _ htime => htime) id h rendering

theorem rests_emitProperties (hforce : k.configuration.force = false)
    (h : k.IsSettled includeTime t (.propertiesFile none)) (rendering : Rendering Text) :
    Rests t [k.propertiesFile none] (emit k (k.propertiesFile none) includeTime rendering) :=
  rests_emit (o := .propertiesFile none) hforce rfl (fun _ htime => htime) id h rendering

theorem rests_emitLocaleProperties (hforce : k.configuration.force = false) {locale : Locale}
    (h : k.IsSettled includeTime t (.propertiesFile (some locale))) :
    Rests t [k.propertiesFile (some locale)] (emitLocaleProperties k locale) := by
  obtain ⟨hthere, sourceTime, htime, hidle⟩ := h
  have hp : t.has (k.propertiesFile (some locale)) = .ok true := hthere _ List.mem_cons_self
  obtain ⟨there, hbyHand⟩ := CountsAs.has htime
  obtain ⟨same, hsame⟩ := sameEntry_of_has hp hbyHand
  rw [emitLocaleProperties_eq, writeLocaleFile]
  refine .ask (CountsAs.eq_ok htime) ?_
  unfold Decision.ofLocaleFile
  cases same with
  | true =>
      refine .ask (a := Decision.byHand (k.propertiesFile (some locale))) ?_
        (.writeIfStale _ (Or.inl rfl))
      rw [hsame]
      rfl
  | false =>
      obtain ⟨d, hd, hkept⟩ := decision_of_not_isDue hforce rfl hp hidle
      refine .ask (a := d) ?_ (.writeIfStale _ (hkept.imp_right fun hprotected => ?_))
      · rw [hsame]
        exact hd
      · refine hprotected.resolve_right fun htrue => ?_
        rw [hsame] at htrue
        cases htrue

theorem rests_emitNative (hforce : k.configuration.force = false) {b : Bundle}
    (hvalid : Native.validate b k.source = .ok ⟨⟩) (h : k.IsSettled includeTime t .nativeClass) :
    Rests t (k.files .nativeClass) (emitNative k b includeTime) := by
  obtain ⟨hthere, sourceTime, rfl, hidle⟩ := h
  have hcurrent : ∀ p ∈ k.files .nativeClass, t.IsCurrent p sourceTime := by
    intro p hp
    exact isCurrent_of_not_isOutdated (hthere p hp) fun hold => hidle ⟨Or.inr ⟨p, hp, hold⟩, id⟩
  rw [emitNative_eq, writePair, hvalid, hforce]
  have hdecision := Decision.ofOutputs_of_isCurrent hcurrent
  refine .ofExcept rfl (.ask (a := Decision.allCurrent) hdecision ?_)
  have hall : Decision.allCurrent.isCurrent = true := rfl
  rw [if_pos hall, forIn_eq_forM]
  have hskips : Rests t (k.files .nativeClass)
      (forM (k.files .nativeClass) fun output =>
        Action.skip output (Decision.current output).reason) :=
    .forM fun output _ => .skip output _
  exact hskips.seq .pure

/-- The outputs of a locale, or of the bundle itself, that are all settled. -/
theorem rests_of_localePlan {locale : Option Locale} {x y : Action Unit}
    (hsettled : ∀ o ∈ k.localePlan locale, k.IsSettled includeTime t o)
    (hclass : k.IsSettled includeTime t (.classFile locale) → Rests t [k.classFile locale] x)
    (hproperties : k.IsSettled includeTime t (.propertiesFile locale) →
      Rests t [k.propertiesFile locale] y) :
    Rests t ((k.localePlan locale).flatMap k.files)
      (if k.configuration.mode.isManaged then do x; y else y) := by
  unfold Task.localePlan at hsettled ⊢
  by_cases hmanaged : k.configuration.mode.isManaged = true
  · rw [if_pos hmanaged] at hsettled ⊢
    rw [if_pos hmanaged]
    exact (hclass (hsettled _ List.mem_cons_self)).seq
      (hproperties (hsettled _ (List.mem_cons_of_mem _ List.mem_cons_self)))
  · rw [if_neg hmanaged] at hsettled ⊢
    rw [if_neg hmanaged]
    exact hproperties (hsettled _ List.mem_cons_self)

/-- Nothing is written of a bundle whose outputs are settled. -/
theorem emitBundle_rests (hforce : k.configuration.force = false) {b : Bundle}
    {locales : List Locale}
    (hvalid : k.configuration.mode.isNative = true → Native.validate b k.source = .ok ⟨⟩)
    (hsettled : ∀ o ∈ k.bundlePlan locales, k.IsSettled includeTime t o) :
    Rests t ((k.bundlePlan locales).flatMap k.files) (emitBundle k b locales includeTime) := by
  unfold Task.bundlePlan at hsettled ⊢
  rw [emitBundle_eq]
  rw [forIn_eq_forM, List.append_assoc, List.flatMap_append, List.flatMap_append,
    List.flatMap_assoc]
  refine .seq ?_ (.seq (.forM fun locale hlocale => ?_) ?_)
  · refine rests_of_localePlan (fun o ho => hsettled o (by simp [ho])) ?_ ?_
    · exact fun h => rests_emitClass hforce h _
    · exact fun h => rests_emitProperties hforce h _
  · refine rests_of_localePlan (fun o ho => hsettled o ?_) ?_ ?_
    · simp only [List.mem_append, List.mem_flatMap]
      exact Or.inl (Or.inr ⟨locale, hlocale, ho⟩)
    · exact fun h => rests_emitClass hforce h _
    · exact fun h => rests_emitLocaleProperties hforce h
  · by_cases hnative : k.configuration.mode.isNative = true
    · rw [if_pos hnative] at hsettled ⊢
      rw [if_pos hnative]
      have h := hsettled .nativeClass (by simp)
      simpa using rests_emitNative hforce (hvalid hnative) h
    · rw [if_neg hnative, if_neg hnative]
      exact .pure

/-- A bundle is left alone if its outputs are settled. -/
theorem processBundle_rests (hforce : k.configuration.force = false) {b : Bundle}
    {locales : List Locale} (hreads : k.Reads t b locales)
    (htime : t.timeOf k.source = .ok includeTime)
    (hvalid : k.configuration.mode.isNative = true → Native.validate b k.source = .ok ⟨⟩)
    (hsettled : ∀ o ∈ k.bundlePlan locales, k.IsSettled includeTime t o) :
    Rests t ((k.bundlePlan locales).flatMap k.files) (processBundle k) := by
  intro s hs
  obtain ⟨own, hown, hlocales⟩ := hreads.resolved
  have hread := hreads.read
  rw [← hs] at hread
  rw [processBundle_eq]
  rw [outcome_bind_of_ok (outcome_get s)]
  refine Rests.ofExcept hread ?_ s hs
  rw [hown]
  exact .ofExcept hlocales (.ask htime (emitBundle_rests hforce hvalid hsettled))

end Includes

/-- An include is left alone if its processing leaves everything alone at any time. -/
theorem processInclude_rests {c : Configuration} {item : Include} {t : FileTree}
    {outputs : List Path} (h : ∀ now, Rests t outputs (process (.of c item now))) (s : RunState)
    (hs : s.tree = t) :
    ∃ s', outcome (processInclude c item) s = (.ok [], s') ∧ LeavesAlone outputs s s' := by
  obtain ⟨s', hprocess, hleaves⟩ := h (s.clock s.ticks).wall (ticked s) hs
  refine ⟨s', ?_, hleaves.tree, hleaves.events, hleaves.warnings⟩
  rw [outcome_processInclude, hprocess]

end Includes

section Runs

/-- Bundles have been processed one after the other without a failure, with the given events. -/
inductive Covers (c : Configuration) : List Include → List RunEvent → RunState → RunState → Prop
  | nil (s : RunState) : Covers c [] [] s s
  | cons {item : Include} {items : List Include} {k : Task} {now : Time} {b : Bundle}
      {locales : List Locale} {time : Time} {new rest : List RunEvent} {s t u : RunState}
      (task : k = .of c item now) (suffix : item.name.endsWith Task.bundleSuffix = true)
      (reads : k.Reads s.tree b locales)
      (valid : k.configuration.mode.isNative = true → Native.validate b k.source = .ok ⟨⟩)
      (dated : s.tree.timeOf k.source = .ok time)
      (follows : k.Follows time (k.bundlePlan locales) new s t)
      (others : Covers c items rest t u) :
      Covers c (item :: items) (new ++ rest) s u

theorem covers_of_outcome {c : Configuration} {items : List Include} {s s' : RunState}
    (hbundles : ∀ item ∈ items, item.name.endsWith Task.bundleSuffix = true)
    (h : outcome (items.flatMapM (processInclude c)) s = (.ok [], s')) :
    ∃ new, Covers c items new s s' := by
  induction items generalizing s with
  | nil =>
      cases h
      exact ⟨[], .nil _⟩
  | cons item items ih =>
      rw [List.flatMapM_cons] at h
      obtain ⟨first, t, hfirst, h⟩ := outcome_bind_eq_ok.mp h
      obtain ⟨others, u, hothers, h⟩ := outcome_bind_eq_ok.mp h
      rw [outcome_pure, Prod.mk.injEq, Except.ok.injEq, List.append_eq_nil_iff] at h
      obtain ⟨⟨rfl, rfl⟩, rfl⟩ := h
      have hbundle := hbundles item List.mem_cons_self
      have hprocess := processInclude_eq_nil hfirst
      rw [process_of_bundle hbundle] at hprocess
      obtain ⟨b, locales, time, new, hreads, hvalid, htime, hfollows⟩ :=
        processBundle_eq_ok hprocess
      obtain ⟨rest, hrest⟩ :=
        ih (fun item' hi => hbundles item' (List.mem_cons_of_mem item hi)) hothers
      have hsame : SameFiles s (ticked s) := ⟨rfl, rfl⟩
      exact ⟨new ++ rest,
        .cons rfl hbundle hreads hvalid htime (hfollows.of_sameFiles hsame) hrest⟩

namespace Covers

variable {c : Configuration} {items : List Include} {new : List RunEvent} {s u : RunState}

theorem events (h : Covers c items new s u) : u.events = s.events ++ new := by
  induction h with
  | nil s => rw [List.append_nil]
  | cons _ _ _ _ _ follows _ ih => rw [ih, follows.events, List.append_assoc]

theorem grows (h : Covers c items new s u) : Grows (RunEvent.writesIn new) s.tree u.tree := by
  induction h with
  | nil s => exact Grows.refl _ s.tree
  | cons _ _ _ _ _ follows _ ih =>
      refine Grows.trans (follows.grows.mono ?_) (ih.mono ?_)
      · intro p time hp
        exact List.mem_append_left _ hp
      · intro p time hp
        exact List.mem_append_right _ hp

/-- Includes that have been processed without a failure are left alone in a later tree in which
their sources are kept. -/
theorem rests (h : Covers c items new s u) (hforce : c.force = false) {first t : FileTree}
    {writes : Path → Time → Prop} (hbefore : Grows writes first s.tree)
    (hafter : Grows writes u.tree t)
    (hnew : ∀ p time, RunEvent.writesIn new p time → writes p time)
    (hkeeps : ∀ item ∈ items, ∀ now, KeepsSources (.of c item now) writes first t) :
    ∀ s', s'.tree = t → ∃ s'', outcome (items.flatMapM (processInclude c)) s' = (.ok [], s'') ∧
      LeavesAlone (new.map RunEvent.output) s' s'' := by
  induction h with
  | nil s => exact fun s' _ => ⟨s', rfl, .refl s'⟩
  | @cons item items k now b locales time new rest s₁ s₂ s₃ task suffix reads valid dated follows
      others ih =>
      subst task
      have hhere : ∀ p time, RunEvent.writesIn new p time → writes p time :=
        fun p time hp => hnew p time (List.mem_append_left rest hp)
      have hthen : ∀ p time, RunEvent.writesIn rest p time → writes p time :=
        fun p time hp => hnew p time (List.mem_append_right new hp)
      have hstep := follows.grows.mono hhere
      have hrest := (others.grows.mono hthen).trans hafter
      have hkept := hkeeps item List.mem_cons_self now
      obtain ⟨hreads, htime⟩ := hkept.reads (hstep.trans hrest) reads dated
      have hsettled := follows.isSettled hforce hrest hhere
        (hkept.hasOldSource hbefore hreads htime)
      have hitem : ∀ now', Rests t (new.map RunEvent.output) (process (.of c item now')) := by
        intro now'
        have hfiles : (Task.of c item now).files = (Task.of c item now').files :=
          funext Task.files_of_now
        rw [process_of_bundle suffix, follows.outputs, hfiles, Task.bundlePlan_of_now]
        refine processBundle_rests hforce ⟨hreads.read, hreads.resolved⟩ htime valid ?_
        intro o ho
        rw [Task.bundlePlan_of_now] at ho
        exact (hsettled o ho).of_now
      intro s' hs'
      obtain ⟨t', hfirst, hleaves⟩ := processInclude_rests hitem s' hs'
      obtain ⟨u', hothers, hleaves'⟩ := ih (hbefore.trans hstep) hafter hthen
        (fun item' hi => hkeeps item' (List.mem_cons_of_mem item hi)) t' (hleaves.tree.trans hs')
      refine ⟨u', ?_, ?_⟩
      · rw [List.flatMapM_cons, outcome_bind_of_ok hfirst, outcome_bind_of_ok hothers]
        rfl
      · rw [List.map_append]
        exact hleaves.trans hleaves'

end Covers

/-- An account in which everything was left alone shows no writes and all outputs. -/
theorem account_of_skipped {events : List RunEvent}
    (h : ∀ e ∈ events, ∃ p reason, e = .skipped p reason) :
    events.filterMap RunEvent.written? = [] ∧
      (events.filterMap RunEvent.skipped?).map Prod.fst = events.map RunEvent.output := by
  induction events with
  | nil => exact ⟨rfl, rfl⟩
  | cons e events ih =>
      obtain ⟨p, reason, rfl⟩ := h e List.mem_cons_self
      obtain ⟨hwritten, hskipped⟩ := ih fun e' he' => h e' (List.mem_cons_of_mem _ he')
      refine ⟨hwritten, ?_⟩
      rw [List.map_cons, ← hskipped]
      rfl

/-- A second run writes nothing, changes no file, fails nowhere and warns of nothing if the first
one has not failed, was not forced and has kept the sources of its includes. It leaves alone, in
order, what the first run has written or left alone. -/
theorem second_run_writes_nothing {c : Configuration} {tree : FileTree} {table table' : ShapeTable}
    {clock clock' : Clock} {r : Report} {s : RunState} (hforce : c.force = false)
    (hbundles : ∀ item ∈ c.includes, item.name.endsWith Task.bundleSuffix = true)
    (h : outcome (run c) (start tree table clock) = (.ok r, s)) (hok : r.failures = [])
    (hkeeps : ∀ item ∈ c.includes, ∀ now,
      KeepsSources (.of c item now) (RunEvent.writesIn s.events) tree s.tree) :
    ∃ r' s', outcome (run c) (start s.tree table' clock') = (.ok r', s') ∧ r'.written = [] ∧
      s'.tree = s.tree ∧ r'.failures = [] ∧ r'.warnings = [] ∧
      r'.skipped.map Prod.fst = s.events.map RunEvent.output := by
  obtain ⟨failures, t, hincludes, rfl, rfl⟩ := run_eq_ok h
  obtain rfl : failures = [] := hok
  obtain ⟨new, hcovers⟩ := covers_of_outcome hbundles hincludes
  have hnew : t.events = new := hcovers.events
  have hkeeps' : ∀ item ∈ c.includes, ∀ now,
      KeepsSources (.of c item now) (RunEvent.writesIn new) tree t.tree := by
    rw [← hnew]
    exact hkeeps
  obtain ⟨u, hagain, hleaves⟩ := hcovers.rests hforce (Grows.refl _ tree) (Grows.refl _ t.tree)
    (fun _ _ hp => hp) hkeeps' (start t.tree table' clock') rfl
  obtain ⟨skips, hevents, houtputs, hskipped⟩ := hleaves.events
  obtain ⟨hwritten, hskipped⟩ := account_of_skipped hskipped
  have huevents : u.events = skips := hevents
  refine ⟨reportOf [] u, summarized [] u, ?_, ?_, hleaves.tree, rfl, hleaves.warnings, ?_⟩
  · have hstart : start (summarized [] t).tree table' clock' = start t.tree table' clock' := rfl
    rw [hstart]
    exact run_of_includes hagain
  · change u.events.filterMap RunEvent.written? = []
    rw [huevents, hwritten]
  · change (u.events.filterMap RunEvent.skipped?).map Prod.fst = t.events.map RunEvent.output
    rw [huevents, hskipped, houtputs, hnew]

end Runs

section Kept

/-- A tree with one include. -/
def plainTree : FileTree :=
  sampleTree [(["s".toList, "N.xml".toList], .file sampleDocument 100 true)]

/-- The configuration that generates it for its own locale. -/
def plainConfiguration : Configuration :=
  sampleConfiguration none [.ofName "N.xml"]

/-- The state at the start of a run on that tree. -/
def plainStart : RunState :=
  start plainTree ⟨[]⟩ fun _ => ⟨3000, 3000⟩

/-- The tree that the run makes of it. -/
def plainResult : FileTree :=
  (outcome (run plainConfiguration) plainStart).2.tree

/-- The account of that run. -/
def plainEvents : List RunEvent :=
  (outcome (run plainConfiguration) plainStart).2.events

/-- The run writes only later than its sources, not to the include, and it makes no file that would
be maintained by hand. -/
theorem plainResult_keeps :
    (∀ e ∈ plainEvents, e = .written e.output 3000 ∧
      plainResult.locate true e.output ≠ plainResult.locate true (Path.ofText "s/N.xml")) ∧
    plainResult.timeOf (Path.ofText "s/N.xml") = .ok 100 ∧
    Bundle.ofFile plainResult (Path.ofText "s/N.xml") = .ok sampleBundle ∧
    plainTree.has (Path.ofText "s/N_en.properties") = .ok false ∧
    plainResult.has (Path.ofText "s/N_en.properties") = .ok false := by
  decide +kernel

theorem plainConfiguration_keepsSources (now : Time) :
    KeepsSources (.of plainConfiguration (.ofName "N.xml") now) (RunEvent.writesIn plainEvents)
      plainTree plainResult := by
  obtain ⟨hevents, htime, hread, hbefore, hafter⟩ := plainResult_keeps
  have hlate : ∀ p time, RunEvent.writesIn plainEvents p time → 3000 ≤ time := by
    intro p time hp
    have hevent := (hevents _ hp).1
    rw [RunEvent.written.injEq] at hevent
    exact Int.le_of_eq hevent.2.symm
  refine ⟨fun p time hp => (hevents _ hp).2, ?_, ?_⟩
  · intro sourceTime hsource p time hp
    have hsourceTime := htime.symm.trans hsource
    cases hsourceTime
    exact Int.le_trans (by decide) (hlate p time hp)
  · intro b locales hreads locale hlocale
    have hbundle := hread.symm.trans hreads.read
    cases hbundle
    obtain ⟨own, hown, hlocales⟩ := hreads.resolved
    cases hown
    cases hlocales
    obtain rfl := List.mem_singleton.mp hlocale
    refine Or.inr ⟨Or.inl ⟨hbefore, hafter⟩, ?_⟩
    rintro sourceTime (⟨-, rfl⟩ | hthere) p time hp
    · exact Int.le_trans (by decide) (hlate p time hp)
    · have hhas := hafter.symm.trans (has_of_timeOf hthere)
      cases hhas

/-- The run that keeps its sources can be repeated. -/
theorem plainConfiguration_second_run :
    plainConfiguration.force = false ∧
      ∃ r' s', outcome (run plainConfiguration)
          (start plainResult ⟨[]⟩ fun _ => ⟨4000, 4000⟩) = (.ok r', s') ∧
        r'.written = [] ∧ s'.tree = plainResult ∧ r'.failures = [] ∧ r'.warnings = [] ∧
        r'.skipped.map Prod.fst = plainEvents.map RunEvent.output := by
  have hok : (outcome (run plainConfiguration) plainStart).1 =
      .ok ⟨plainEvents.map RunEvent.output, [], [], []⟩ := by decide +kernel
  refine ⟨rfl, second_run_writes_nothing rfl ?_ (outcome_of_fst hok) rfl ?_⟩
  · decide
  · intro item hitem now
    obtain rfl := List.mem_singleton.mp hitem
    exact plainConfiguration_keepsSources now

end Kept

section Changed

/-- What a second run writes and where it fails, if the first one has had no failures. -/
def secondOutcome (c : Configuration) (tree : FileTree) (now : Time) :
    Option (List Path × List IncludeFailure) :=
  match outcome (run c) (start tree ⟨[]⟩ fun _ => ⟨now, now⟩) with
  | (.ok ⟨_, _, _, []⟩, s) =>
      match (outcome (run c) (start s.tree ⟨[]⟩ fun _ => ⟨now, now⟩)).1 with
      | .ok r => some (r.written, r.failures)
      | .error _ => none
  | _ => none

/-- A tree in which the properties file of a locale is a link to the include, and the file
maintained by hand for that locale is newer than the include. -/
def overwrittenTree : FileTree :=
  sampleTree
    [(["s".toList, "N.xml".toList], .file sampleDocument 100 true),
      (["s".toList, "N_fr.properties".toList], .file (Text.utf8 "a=b") 2000 true),
      (["r".toList, "N_fr.properties".toList], .link (Path.ofText "../s/N.xml"))]

/-- The configuration that generates it for two locales. -/
def overwrittenConfiguration : Configuration :=
  sampleConfiguration (some "en,fr") [.ofName "N.xml"]

/-- The state behind a run on that tree. -/
def overwrittenResult : RunState :=
  (outcome (run overwrittenConfiguration) (start overwrittenTree ⟨[]⟩ fun _ => ⟨3000, 3000⟩)).2

/-- The first run has no failures, all its writes are later than the include and the file maintained
by hand, and no such file is written. Yet the second run fails: the first one has replaced the
bundle by the properties file of a locale. -/
theorem second_run_after_overwritten_bundle :
    overwrittenConfiguration.force = false ∧
      (∀ e ∈ overwrittenResult.events, e = .written e.output 3000) ∧
      overwrittenTree.timeOf (Path.ofText "s/N.xml") = .ok 100 ∧
      overwrittenTree.timeOf (Path.ofText "s/N_fr.properties") = .ok 2000 ∧
      overwrittenTree.has (Path.ofText "s/N_en.properties") = .ok false ∧
      overwrittenResult.tree.lookup (Path.ofText "s/N_fr.properties") =
        overwrittenTree.lookup (Path.ofText "s/N_fr.properties") ∧
      overwrittenResult.tree.has (Path.ofText "s/N_en.properties") = .ok false ∧
      secondOutcome overwrittenConfiguration overwrittenTree 3000 =
        some ([], [⟨"N.xml", "Malformed resource bundle s/N.xml"⟩]) := by
  decide +kernel

/-- A missing file that would be maintained by hand counts with the time zero, so that its
properties file is written again as long as the clock shows less. -/
example :
    secondOutcome (sampleConfiguration none [.ofName "N.xml"])
        (sampleTree [(["s".toList, "N.xml".toList], .file sampleDocument (-10) true)]) (-5) =
      some ([Path.ofText "r/N_en.properties"], []) := by
  decide +kernel

/-- A directory that the first run makes where a file maintained by hand is looked for. -/
example :
    secondOutcome
        { sampleConfiguration (some "en,fr,fr.properties/x") [.ofName "N.xml"] with
          destination := Path.ofText "s" }
        (sampleTree
          [(["s".toList, "N.xml".toList], .file sampleDocument 100 true),
            (["r".toList, "N_fr.properties".toList], .directory 1000),
            (["r".toList, "N_fr.properties".toList, "x.properties".toList], .file [] 1000 true)])
        3000 =
      some ([], [⟨"N.xml", "[Errno 21] Is a directory: 's/N_fr.properties'"⟩]) := by
  decide +kernel

end Changed

end Generation
end MessageCatalog
