import MessageCatalog.Proofs.Generation.Action
import MessageCatalog.Proofs.Generation.Staleness

/-!
# The plan of an include

Which files can come of an include follows from its kind, the mode and the locales of its bundle
alone: its plan is a list of outputs, and each output has one file or, for the native class, two. An
include that is processed without a failure goes through its plan in order. Each output is written
if it is due in the state in which it is reached, and left alone otherwise; either shows in the
account once for each of its files. No other file of the tree changes.

**Results.**
* `Task.Produces`: what processing makes of one output.
* `Task.Gives`: the actions that go through a plan; sequences and loops of such actions are of that
  kind again.
* `Task.Follows.outputs`, `Task.Follows.grows`: the account of a plan and what it does to the tree.
* `processInclude_follows_plan`: an include that has no failure goes through its plan.
-/

namespace MessageCatalog

open FileTree RunState

/-- The writes that an account records. -/
def RunEvent.writesIn (events : List RunEvent) (p : Path) (time : Time) : Prop :=
  .written p time ∈ events

namespace Generation

/-- What can come of an include. -/
inductive Output where
  /-- The accessor class, or its subclass for a locale. -/
  | classFile (locale : Option Locale)
  /-- The base properties file, or that of a locale. -/
  | propertiesFile (locale : Option Locale)
  /-- Header and implementation of the native class. -/
  | nativeClass

namespace Task

section Plans

/-- The files of an output. -/
def files (k : Task) : Output → List Path
  | .classFile locale => [k.classFile locale]
  | .propertiesFile locale => [k.propertiesFile locale]
  | .nativeClass => [k.nativeHeader, k.nativeImplementation]

/-- The outputs of a locale of a bundle, or of the bundle itself. -/
def localePlan (k : Task) (locale : Option Locale) : List Output :=
  if k.configuration.mode.isManaged then [.classFile locale, .propertiesFile locale]
  else [.propertiesFile locale]

/-- The outputs of a bundle that is generated for the given locales. -/
def bundlePlan (k : Task) (locales : List Locale) : List Output :=
  k.localePlan none ++ locales.flatMap (fun locale => k.localePlan (some locale)) ++
    if k.configuration.mode.isNative then [.nativeClass] else []

/-- The outputs of the properties file of a locale. -/
def propertiesPlan (k : Task) (locale : Locale) : List Output :=
  if k.configuration.mode.isManaged then [.classFile (some locale)] else []

/-- The bundle that an include is in a tree, and the locales it is generated for. -/
structure Reads (k : Task) (t : FileTree) (b : Bundle) (locales : List Locale) : Prop where
  read : Bundle.ofFile t k.source = .ok b
  resolved : ∃ own, b.locale = some own ∧
    Bundle.resolveLocales own k.configuration.locales k.source = .ok locales

/-- The plan of an include in a tree: that of its bundle, or that of its properties file. -/
inductive Plans (k : Task) (t : FileTree) : List Output → Prop
  | bundle {b : Bundle} {locales : List Locale}
      (suffix : k.item.name.endsWith bundleSuffix = true) (reads : k.Reads t b locales) :
      Plans k t (k.bundlePlan locales)
  | properties {locale : Locale}
      (noBundle : k.item.name.endsWith bundleSuffix = false)
      (suffix : k.item.name.endsWith propertiesSuffix = true)
      (named : Locale.ofFileName k.item.name propertiesSuffix = some locale) :
      Plans k t (k.propertiesPlan locale)

end Plans

section Due

/-- The time that the source of an output has: for the properties file of a locale that of the file
maintained by hand, or zero if there is none, and for any other output that of the include. -/
def SourceTime (k : Task) (includeTime : Time) (t : FileTree) : Output → Time → Prop
  | .propertiesFile (some locale), time => t.CountsAs (k.byHandFile locale) time
  | _, time => time = includeTime

/-- Generation is forced, or a file of the output is missing or older than the source. -/
def IsStale (k : Task) (t : FileTree) (o : Output) (sourceTime : Time) : Prop :=
  k.configuration.force = true ∨ ∃ p ∈ k.files o, t.IsOutdated p sourceTime

/-- The output is never written: it is read-only, or it is the file maintained by hand. The native
class is not protected. -/
def IsProtected (k : Task) (t : FileTree) : Output → Prop
  | .classFile locale => t.isReadOnly (k.classFile locale) = .ok true
  | .propertiesFile none => t.isReadOnly (k.propertiesFile none) = .ok true
  | .propertiesFile (some locale) =>
      t.isReadOnly (k.propertiesFile (some locale)) = .ok true ∨
        t.sameEntry (k.propertiesFile (some locale)) (k.byHandFile locale) = .ok true
  | .nativeClass => False

/-- The output is to be written. -/
def IsDue (k : Task) (t : FileTree) (o : Output) (sourceTime : Time) : Prop :=
  k.IsStale t o sourceTime ∧ ¬ k.IsProtected t o

/-- What became of an output that was reached in the state `s`: it was due and all its files were
written, or it was not due and all its files, which exist, were left alone. -/
inductive Produces (k : Task) (includeTime : Time) (o : Output) (new : List RunEvent)
    (s s' : RunState) : Prop
  | written (sourceTime : Time) (source : k.SourceTime includeTime s.tree o sourceTime)
      (due : k.IsDue s.tree o sourceTime)
      (outputs : new.map RunEvent.output = k.files o)
      (written : ∀ e ∈ new, ∃ p time, e = .written p time)
      (events : s'.events = s.events ++ new)
      (grows : Grows (RunEvent.writesIn new) s.tree s'.tree)
      (dated : ∀ p ∈ k.files o, ∃ q time,
        RunEvent.writesIn new q time ∧ s'.tree.timeOf p = .ok time)
  | skipped (sourceTime : Time) (source : k.SourceTime includeTime s.tree o sourceTime)
      (idle : ¬ k.IsDue s.tree o sourceTime)
      (outputs : new.map RunEvent.output = k.files o)
      (skipped : ∀ e ∈ new, ∃ p reason, e = .skipped p reason)
      (events : s'.events = s.events ++ new)
      (tree : s'.tree = s.tree)
      (there : ∀ p ∈ k.files o, s.tree.has p = .ok true)

namespace Produces

variable {k : Task} {includeTime : Time} {o : Output} {new : List RunEvent} {s s' t : RunState}

theorem outputs (h : k.Produces includeTime o new s s') : new.map RunEvent.output = k.files o := by
  cases h with
  | written _ _ _ outputs => exact outputs
  | skipped _ _ _ outputs => exact outputs

theorem events (h : k.Produces includeTime o new s s') : s'.events = s.events ++ new := by
  cases h with
  | written _ _ _ _ _ events => exact events
  | skipped _ _ _ _ _ events => exact events

theorem grows (h : k.Produces includeTime o new s s') :
    Grows (RunEvent.writesIn new) s.tree s'.tree := by
  cases h with
  | written _ _ _ _ _ _ grows => exact grows
  | skipped _ _ _ _ _ _ tree =>
      rw [tree]
      exact Grows.refl _ s.tree

/-- The files of the output are there. -/
theorem has (h : k.Produces includeTime o new s s') {p : Path} (hp : p ∈ k.files o) :
    s'.tree.has p = .ok true := by
  cases h with
  | written _ _ _ _ _ _ _ dated =>
      obtain ⟨q, time, -, htime⟩ := dated p hp
      exact has_of_timeOf htime
  | skipped _ _ _ _ _ _ tree there =>
      rw [tree]
      exact there p hp

theorem of_sameFiles (hs : SameFiles s t) (h : k.Produces includeTime o new t s') :
    k.Produces includeTime o new s s' := by
  cases h with
  | written sourceTime source due outputs written events grows dated =>
      rw [hs.tree] at source due grows
      rw [hs.events] at events
      exact .written sourceTime source due outputs written events grows dated
  | skipped sourceTime source idle outputs skipped events tree there =>
      rw [hs.tree] at source idle tree there
      rw [hs.events] at events
      exact .skipped sourceTime source idle outputs skipped events tree there

/-- An output with one file that was written. -/
theorem of_writes {p : Path} {time sourceTime : Time} (hfiles : k.files o = [p])
    (source : k.SourceTime includeTime s.tree o sourceTime) (due : k.IsDue s.tree o sourceTime)
    (h : Writes p time s s') : k.Produces includeTime o [.written p time] s s' := by
  obtain ⟨content, hfile⟩ := h.file
  refine .written sourceTime source due hfiles.symm ?_ h.events ?_ ?_
  · intro e he
    exact ⟨p, time, List.mem_singleton.mp he⟩
  · refine h.grows.mono ?_
    rintro q time' ⟨rfl, rfl⟩
    exact List.mem_singleton.mpr rfl
  · intro q hq
    rw [hfiles, List.mem_singleton] at hq
    subst hq
    exact ⟨q, time, List.mem_singleton.mpr rfl, timeOf_of_lookup hfile⟩

/-- An output with one file that was left alone. -/
theorem of_skips {p : Path} {sourceTime : Time} (hfiles : k.files o = [p])
    (source : k.SourceTime includeTime s.tree o sourceTime) (idle : ¬ k.IsDue s.tree o sourceTime)
    (there : s.tree.has p = .ok true) (h : Skips p s s') :
    ∃ new, k.Produces includeTime o new s s' := by
  obtain ⟨reason, hevents⟩ := h.events
  refine ⟨[.skipped p reason], .skipped sourceTime source idle hfiles.symm ?_ hevents h.tree ?_⟩
  · intro e he
    exact ⟨p, reason, List.mem_singleton.mp he⟩
  · intro q hq
    rw [hfiles, List.mem_singleton] at hq
    rwa [hq]

/-- A native class that was left alone. -/
theorem of_skips_native
    (hnew : ∀ p ∈ k.files .nativeClass,
      k.configuration.force = false ∧ s.tree.IsCurrent p includeTime)
    (h : Skips k.nativeHeader s t) (h' : Skips k.nativeImplementation t s') :
    ∃ new, k.Produces includeTime .nativeClass new s s' := by
  obtain ⟨reason, hevents⟩ := h.events
  obtain ⟨reason', hevents'⟩ := h'.events
  refine ⟨[.skipped k.nativeHeader reason, .skipped k.nativeImplementation reason'],
    .skipped includeTime rfl ?_ rfl ?_ ?_ (h'.tree.trans h.tree) ?_⟩
  · intro due
    rcases due.1 with hforced | ⟨p, hp, hold⟩
    · rw [(hnew k.nativeHeader List.mem_cons_self).1] at hforced
      cases hforced
    · exact (hnew p hp).2.not_isOutdated hold
  · simp
  · rw [hevents', hevents, List.append_assoc]
    rfl
  · intro p hp
    exact (hnew p hp).2.has

/-- A native class that was written. Its files may be one and the same through links, so that the
header has the time of either write. -/
theorem of_writes_native {time time' : Time} (hstale : k.IsStale s.tree .nativeClass includeTime)
    (h : Writes k.nativeHeader time s t) (h' : Writes k.nativeImplementation time' t s') :
    ∃ new, k.Produces includeTime .nativeClass new s s' := by
  have hhead : RunEvent.writesIn [.written k.nativeHeader time,
      .written k.nativeImplementation time'] k.nativeHeader time := List.mem_cons_self
  have htail : RunEvent.writesIn [.written k.nativeHeader time,
      .written k.nativeImplementation time'] k.nativeImplementation time' :=
    List.mem_cons_of_mem _ List.mem_cons_self
  obtain ⟨content, hfile⟩ := h.file
  obtain ⟨content', hfile'⟩ := h'.file
  refine ⟨[.written k.nativeHeader time, .written k.nativeImplementation time'],
    .written includeTime rfl ⟨hstale, id⟩ rfl ?_ ?_ ?_ ?_⟩
  · simp
  · rw [h'.events, h.events, List.append_assoc]
    rfl
  · refine Grows.trans (h.grows.mono ?_) (h'.grows.mono ?_)
    · rintro q τ ⟨rfl, rfl⟩
      exact hhead
    · rintro q τ ⟨rfl, rfl⟩
      exact htail
  · intro p hp
    rcases List.mem_cons.mp hp with rfl | hp
    · obtain ⟨τ, hτ, hwhen⟩ := h'.grows.timeOf_of_ok (timeOf_of_lookup hfile)
      rcases hwhen with rfl | ⟨q, rfl, rfl⟩
      · exact ⟨k.nativeHeader, _, hhead, hτ⟩
      · exact ⟨k.nativeImplementation, _, htail, hτ⟩
    · rw [List.mem_singleton] at hp
      subst hp
      exact ⟨k.nativeImplementation, time', htail, timeOf_of_lookup hfile'⟩

end Produces

end Due

/-- The outputs of a plan have been produced one after the other, with the given events. -/
inductive Follows (k : Task) (includeTime : Time) :
    List Output → List RunEvent → RunState → RunState → Prop
  | nil {s s' : RunState} (same : SameFiles s s') : Follows k includeTime [] [] s s'
  | cons {o : Output} {plan : List Output} {new rest : List RunEvent} {s t u : RunState}
      (first : k.Produces includeTime o new s t) (others : Follows k includeTime plan rest t u) :
      Follows k includeTime (o :: plan) (new ++ rest) s u

namespace Follows

variable {k : Task} {includeTime : Time} {plan plan' : List Output} {new new' : List RunEvent}
  {s t u : RunState}

theorem of_sameFiles (hs : SameFiles s t) (h : k.Follows includeTime plan new t u) :
    k.Follows includeTime plan new s u := by
  cases h with
  | nil same => exact .nil (hs.trans same)
  | cons first others => exact .cons (first.of_sameFiles hs) others

theorem append (h : k.Follows includeTime plan new s t)
    (h' : k.Follows includeTime plan' new' t u) :
    k.Follows includeTime (plan ++ plan') (new ++ new') s u := by
  induction h with
  | nil same => exact h'.of_sameFiles same
  | cons first _ ih =>
      rw [List.append_assoc]
      exact .cons first (ih h')

/-- The account has one event for each file of each output, in order. -/
theorem outputs (h : k.Follows includeTime plan new s t) :
    new.map RunEvent.output = plan.flatMap k.files := by
  induction h with
  | nil same => rfl
  | cons first _ ih => rw [List.map_append, List.flatMap_cons, first.outputs, ih]

theorem events (h : k.Follows includeTime plan new s t) : t.events = s.events ++ new := by
  induction h with
  | nil same => rw [same.events, List.append_nil]
  | cons first _ ih => rw [ih, first.events, List.append_assoc]

/-- The tree has grown by the writes of the account. -/
theorem grows (h : k.Follows includeTime plan new s t) :
    Grows (RunEvent.writesIn new) s.tree t.tree := by
  induction h with
  | nil same =>
      rw [same.tree]
      exact Grows.refl _ _
  | cons first _ ih =>
      refine Grows.trans (first.grows.mono ?_) (ih.mono ?_)
      · intro p time hp
        exact List.mem_append_left _ hp
      · intro p time hp
        exact List.mem_append_right _ hp

/-- All files of the plan are there. -/
theorem has (h : k.Follows includeTime plan new s t) {o : Output} (ho : o ∈ plan) {p : Path}
    (hp : p ∈ k.files o) : t.tree.has p = .ok true := by
  induction h with
  | nil same => cases ho
  | cons first others ih =>
      rcases List.mem_cons.mp ho with rfl | ho
      · exact others.grows.has_of_true (first.has hp)
      · exact ih ho

end Follows

/-- Whenever the action succeeds, it has gone through the plan. -/
def Gives (k : Task) (includeTime : Time) (plan : List Output) (x : Action Unit) : Prop :=
  ∀ s s', outcome x s = (.ok ⟨⟩, s') → ∃ new, k.Follows includeTime plan new s s'

namespace Gives

variable {k : Task} {includeTime : Time} {plan plan' : List Output} {x y : Action Unit}

theorem pure : k.Gives includeTime [] (Pure.pure ⟨⟩) := by
  intro s s' h
  cases h
  exact ⟨[], .nil (.refl s)⟩

theorem seq (hx : k.Gives includeTime plan x) (hy : k.Gives includeTime plan' y) :
    k.Gives includeTime (plan ++ plan') (do x; y) := by
  intro s u h
  obtain ⟨⟨⟩, t, h, h'⟩ := outcome_bind_eq_ok.mp h
  obtain ⟨new, hnew⟩ := hx s t h
  obtain ⟨new', hnew'⟩ := hy t u h'
  exact ⟨new ++ new', hnew.append hnew'⟩

theorem forM {α : Type} {f : α → Action Unit} {plan : α → List Output}
    (hf : ∀ a, k.Gives includeTime (plan a) (f a)) (as : List α) :
    k.Gives includeTime (as.flatMap plan) (ForM.forM as f) := by
  induction as with
  | nil => exact pure
  | cons a as ih =>
      rw [List.forM_cons, List.flatMap_cons]
      exact (hf a).seq ih

end Gives

end Task

section Actions

variable {k : Task} {includeTime : Time}

/-- An output with one file, whose decision says whether it is due. -/
theorem follows_of_writeIfStale {o : Output} {p : Path} {sourceTime : Time} {decision : Decision}
    {content : Action Bytes} {s s' : RunState} (hfiles : k.files o = [p])
    (source : k.SourceTime includeTime s.tree o sourceTime) (hcontent : Leads SameFiles content)
    (hcurrent : decision.isCurrent = true →
      ¬ k.IsDue s.tree o sourceTime ∧ s.tree.has p = .ok true)
    (hreadOnly : s.tree.isReadOnly p = .ok true → k.IsProtected s.tree o)
    (hdue : decision.isCurrent = false → s.tree.isReadOnly p = .ok false →
      k.IsDue s.tree o sourceTime)
    (h : outcome (writeIfStale p decision content) s = (.ok ⟨⟩, s')) :
    ∃ new, k.Follows includeTime [o] new s s' := by
  rcases writeIfStale_eq_ok hcontent h with
    ⟨hkept, hskips⟩ | ⟨hstale, hwritable, time, hwrites⟩
  · have hidle : ¬ k.IsDue s.tree o sourceTime ∧ s.tree.has p = .ok true := by
      rcases hkept with hdecision | hprotected
      · exact hcurrent hdecision
      · exact ⟨fun due => due.2 (hreadOnly hprotected), has_of_isReadOnly hprotected⟩
    obtain ⟨new, hproduces⟩ := Task.Produces.of_skips hfiles source hidle.1 hidle.2 hskips
    exact ⟨new ++ [], .cons hproduces (.nil (.refl s'))⟩
  · have hproduces := Task.Produces.of_writes hfiles source (hdue hstale hwritable) hwrites
    exact ⟨_, .cons hproduces (.nil (.refl s'))⟩

/-- An output that is compared with the include and protected only by being read-only. -/
theorem gives_emit {o : Output} {p : Path} (hfiles : k.files o = [p])
    (hsource : ∀ t, k.SourceTime includeTime t o includeTime)
    (hprotected : ∀ t, k.IsProtected t o ↔ t.isReadOnly p = .ok true) (rendering : Rendering Text) :
    k.Gives includeTime [o] (emit k p includeTime rendering) := by
  intro s s' h
  rw [emit_eq, writeRendered] at h
  obtain ⟨decision, hdecision, hwrite⟩ := Action.ask_bind_eq_ok.mp h
  have hstale : k.IsStale s.tree o includeTime ↔
      k.configuration.force = true ∨ s.tree.IsOutdated p includeTime := by
    simp [Task.IsStale, hfiles]
  refine follows_of_writeIfStale hfiles (hsource s.tree) ?_ ?_ (hprotected s.tree).mpr ?_ hwrite
  · exact Leads.bind SameFiles SameFiles.trans (Action.render_sameFiles rendering)
      fun text => Leads.pure SameFiles.refl text.utf8
  · intro hcurrent
    rcases Decision.ofOutput_eq_ok hdecision with ⟨-, hforce, hnew⟩ | ⟨hold, -⟩
    · refine ⟨fun due => ?_, hnew.has⟩
      rcases hstale.mp due.1 with hforced | hold
      · rw [hforce] at hforced
        cases hforced
      · exact hnew.not_isOutdated hold
    · rw [hcurrent] at hold
      cases hold
  · intro hnot hwritable
    rcases Decision.ofOutput_eq_ok hdecision with ⟨hcurrent, -⟩ | ⟨-, hold⟩
    · rw [hnot] at hcurrent
      cases hcurrent
    · refine ⟨hstale.mpr hold, fun hprot => ?_⟩
      rw [(hprotected s.tree).mp hprot] at hwritable
      cases hwritable

theorem gives_emitClass (locale : Option Locale) (rendering : Rendering Text) :
    k.Gives includeTime [.classFile locale] (emit k (k.classFile locale) includeTime rendering) :=
  gives_emit (o := .classFile locale) rfl (fun _ => rfl) (fun _ => Iff.rfl) rendering

theorem gives_emitProperties (rendering : Rendering Text) :
    k.Gives includeTime [.propertiesFile none]
      (emit k (k.propertiesFile none) includeTime rendering) :=
  gives_emit (o := .propertiesFile none) rfl (fun _ => rfl) (fun _ => Iff.rfl) rendering

/-- The content of the properties file of a locale is found without touching a file. -/
theorem localeContent_sameFiles (locale : Locale) :
    Leads SameFiles (do
      if ← Action.ask (·.has (k.byHandFile locale)) then Action.ask (·.read (k.byHandFile locale))
      else return (Properties.stubText k.className locale k.header).utf8 : Action Bytes) := by
  refine Leads.bind SameFiles SameFiles.trans (Action.ask_sameFiles _) fun there => ?_
  cases there with
  | true => exact Action.ask_sameFiles (·.read (k.byHandFile locale))
  | false => exact Leads.pure SameFiles.refl _

theorem gives_emitLocaleProperties (locale : Locale) :
    k.Gives includeTime [.propertiesFile (some locale)] (emitLocaleProperties k locale) := by
  intro s s' h
  rw [emitLocaleProperties_eq, writeLocaleFile] at h
  obtain ⟨sourceTime, htime, h⟩ := Action.ask_bind_eq_ok.mp h
  obtain ⟨decision, hdecision, hwrite⟩ := Action.ask_bind_eq_ok.mp h
  have hstale : k.IsStale s.tree (.propertiesFile (some locale)) sourceTime ↔
      k.configuration.force = true ∨
        s.tree.IsOutdated (k.propertiesFile (some locale)) sourceTime := by
    simp [Task.IsStale, Task.files]
  refine follows_of_writeIfStale rfl (countsAs_of_eq_ok htime) (localeContent_sameFiles locale)
    ?_ Or.inl ?_ hwrite
  · intro hcurrent
    rcases Decision.ofLocaleFile_eq_ok hdecision with ⟨-, hsame⟩ | ⟨-, hdecision⟩
    · exact ⟨fun due => due.2 (Or.inr hsame), (has_of_sameEntry hsame).1⟩
    · rcases Decision.ofOutput_eq_ok hdecision with ⟨-, hforce, hnew⟩ | ⟨hold, -⟩
      · refine ⟨fun due => ?_, hnew.has⟩
        rcases hstale.mp due.1 with hforced | hold
        · rw [hforce] at hforced
          cases hforced
        · exact hnew.not_isOutdated hold
      · rw [hcurrent] at hold
        cases hold
  · intro hnot hwritable
    rcases Decision.ofLocaleFile_eq_ok hdecision with ⟨hcurrent, -⟩ | ⟨hother, hdecision⟩
    · rw [hnot] at hcurrent
      cases hcurrent
    · rcases Decision.ofOutput_eq_ok hdecision with ⟨hcurrent, -⟩ | ⟨-, hold⟩
      · rw [hnot] at hcurrent
        cases hcurrent
      · refine ⟨hstale.mpr hold, ?_⟩
        rintro (hreadOnly | hsame)
        · rw [hreadOnly] at hwritable
          cases hwritable
        · rw [hsame] at hother
          cases hother

theorem gives_emitLocale (locale : Locale) :
    k.Gives includeTime (k.localePlan (some locale)) (emitLocale k includeTime locale) := by
  rw [emitLocale_eq, Task.localePlan]
  by_cases hmanaged : k.configuration.mode.isManaged = true
  · rw [if_pos hmanaged, if_pos hmanaged]
    exact (gives_emitClass (some locale) _).seq (gives_emitLocaleProperties locale)
  · rw [if_neg hmanaged, if_neg hmanaged]
    exact gives_emitLocaleProperties locale

theorem gives_emitBase (b : Bundle) :
    k.Gives includeTime (k.localePlan none) (emitBase k b includeTime) := by
  rw [emitBase_eq, Task.localePlan]
  by_cases hmanaged : k.configuration.mode.isManaged = true
  · rw [if_pos hmanaged, if_pos hmanaged]
    exact (gives_emitClass none _).seq (gives_emitProperties _)
  · rw [if_neg hmanaged, if_neg hmanaged]
    exact gives_emitProperties _

/-- The native class is left alone if both files are current, and both are written otherwise. -/
theorem gives_emitNative (b : Bundle) :
    k.Gives includeTime [.nativeClass] (emitNative k b includeTime) := by
  intro s s' h
  rw [emitNative_eq, writePair] at h
  obtain ⟨-, -, h⟩ := Action.ofExcept_bind_eq_ok.mp h
  obtain ⟨decision, hdecision, h⟩ := Action.ask_bind_eq_ok.mp h
  rcases Decision.ofOutputs_eq_ok hdecision with ⟨hcurrent, hnew⟩ | ⟨hstale, p, hp, hold⟩
  · rw [if_pos hcurrent, forIn_eq_forM] at h
    obtain ⟨⟨⟩, u, hloop, h⟩ := outcome_bind_eq_ok.mp h
    cases h
    rw [List.forM_cons, List.forM_cons, List.forM_nil] at hloop
    obtain ⟨⟨⟩, t, hheader, hloop⟩ := outcome_bind_eq_ok.mp hloop
    obtain ⟨⟨⟩, u, himplementation, hloop⟩ := outcome_bind_eq_ok.mp hloop
    cases hloop
    obtain ⟨new, hproduces⟩ := Task.Produces.of_skips_native hnew (Action.skip_eq_ok hheader)
      (Action.skip_eq_ok himplementation)
    exact ⟨new ++ [], .cons hproduces (.nil (.refl s'))⟩
  · rw [if_neg (by simp [hstale])] at h
    obtain ⟨header, s₁, hsame, h⟩ := (Action.render_sameFiles _).of_bind_eq_ok h
    obtain ⟨implementation, s₂, hsame', h⟩ := (Action.render_sameFiles _).of_bind_eq_ok h
    obtain ⟨⟨⟩, t, hheader, himplementation⟩ := outcome_bind_eq_ok.mp h
    obtain ⟨time, hfirst⟩ := Action.write_eq_ok hheader
    obtain ⟨time', hsecond⟩ := Action.write_eq_ok himplementation
    have hsames := hsame.trans hsame'
    have hdue : k.IsStale s₂.tree .nativeClass includeTime := by
      rw [hsames.tree]
      rcases hold with hforced | hold
      · exact Or.inl hforced
      · exact Or.inr ⟨p, hp, hold⟩
    obtain ⟨new, hproduces⟩ := Task.Produces.of_writes_native hdue hfirst hsecond
    exact ⟨new ++ [], .cons (hproduces.of_sameFiles hsames) (.nil (.refl s'))⟩

theorem gives_emitBundle (b : Bundle) (locales : List Locale) :
    k.Gives includeTime (k.bundlePlan locales) (emitBundle k b locales includeTime) := by
  rw [emitBundle_eq, Task.bundlePlan]
  rw [List.append_assoc, forIn_eq_forM]
  refine (gives_emitBase b).seq (.seq (.forM gives_emitLocale locales) ?_)
  by_cases hnative : k.configuration.mode.isNative = true
  · rw [if_pos hnative, if_pos hnative]
    exact gives_emitNative b
  · rw [if_neg hnative, if_neg hnative]
    exact .pure

/-- A bundle that gives a native class can be one. -/
theorem validate_of_emitBundle {b : Bundle} {locales : List Locale} {s s' : RunState}
    (hnative : k.configuration.mode.isNative = true)
    (h : outcome (emitBundle k b locales includeTime) s = (.ok ⟨⟩, s')) :
    Native.validate b k.source = .ok ⟨⟩ := by
  rw [emitBundle_eq] at h
  obtain ⟨⟨⟩, t, -, h⟩ := outcome_bind_eq_ok.mp h
  obtain ⟨⟨⟩, u, -, h⟩ := outcome_bind_eq_ok.mp h
  rw [if_pos hnative] at h
  rw [emitNative_eq, writePair] at h
  obtain ⟨⟨⟩, hvalid, -⟩ := Action.ofExcept_bind_eq_ok.mp h
  cases hresult : Native.validate b k.source with
  | ok u => rfl
  | error e =>
      rw [hresult] at hvalid
      cases hvalid

/-- A bundle that is processed goes through the plan of its locales. -/
theorem processBundle_eq_ok {s s' : RunState} (h : outcome (processBundle k) s = (.ok ⟨⟩, s')) :
    ∃ b locales time new, k.Reads s.tree b locales ∧
      (k.configuration.mode.isNative = true → Native.validate b k.source = .ok ⟨⟩) ∧
      s.tree.timeOf k.source = .ok time ∧ k.Follows time (k.bundlePlan locales) new s s' := by
  rw [processBundle_eq] at h
  rw [outcome_bind_of_ok (outcome_get s)] at h
  obtain ⟨b, hread, h⟩ := Action.ofExcept_bind_eq_ok.mp h
  cases hlocale : b.locale with
  | none =>
      rw [hlocale] at h
      cases h
  | some own =>
      rw [hlocale] at h
      obtain ⟨locales, hlocales, h⟩ := Action.ofExcept_bind_eq_ok.mp h
      obtain ⟨time, htime, h⟩ := Action.ask_bind_eq_ok.mp h
      obtain ⟨new, hfollows⟩ := gives_emitBundle b locales s s' h
      exact ⟨b, locales, time, new, ⟨hread, own, hlocale, hlocales⟩,
        fun hnative => validate_of_emitBundle hnative h, htime, hfollows⟩

/-- A properties file that is processed goes through the plan of its locale, which may be empty. -/
theorem processProperties_eq_ok {s s' : RunState}
    (h : outcome (processProperties k) s = (.ok ⟨⟩, s')) :
    ∃ locale time new, Locale.ofFileName k.item.name Task.propertiesSuffix = some locale ∧
      (k.propertiesPlan locale ≠ [] → s.tree.timeOf k.source = .ok time) ∧
      k.Follows time (k.propertiesPlan locale) new s s' := by
  rw [processProperties_eq] at h
  cases hlocale : Locale.ofFileName k.item.name Task.propertiesSuffix with
  | none =>
      rw [hlocale] at h
      cases h
  | some locale =>
      rw [hlocale] at h
      simp only [outcome_bind_of_ok (outcome_get s)] at h
      obtain ⟨-, -, h⟩ := Action.ofExcept_bind_eq_ok.mp h
      unfold Task.propertiesPlan
      by_cases hmanaged : k.configuration.mode.isManaged = true
      · rw [if_pos hmanaged] at h
        obtain ⟨time, htime, h⟩ := Action.ask_bind_eq_ok.mp h
        obtain ⟨new, hfollows⟩ := gives_emitClass (some locale) _ s s' h
        refine ⟨locale, time, new, rfl, fun _ => htime, ?_⟩
        rw [if_pos hmanaged]
        exact hfollows
      · rw [if_neg hmanaged] at h
        cases h
        refine ⟨locale, 0, [], rfl, fun hne => ?_, ?_⟩
        · exact absurd (if_neg hmanaged) hne
        · rw [if_neg hmanaged]
          exact .nil (.refl s)

/-- An include that is processed has a plan in the tree in which its processing begins, and goes
through it. -/
theorem process_eq_ok {s s' : RunState} (h : outcome (process k) s = (.ok ⟨⟩, s')) :
    ∃ plan time new, k.Plans s.tree plan ∧ (plan ≠ [] → s.tree.timeOf k.source = .ok time) ∧
      k.Follows time plan new s s' := by
  rw [process_eq] at h
  by_cases hbundle : k.item.name.endsWith Task.bundleSuffix = true
  · rw [if_pos hbundle] at h
    obtain ⟨b, locales, time, new, hreads, -, htime, hfollows⟩ := processBundle_eq_ok h
    exact ⟨_, time, new, .bundle hbundle hreads, fun _ => htime, hfollows⟩
  · rw [if_neg hbundle] at h
    by_cases hproperties : k.item.name.endsWith Task.propertiesSuffix = true
    · rw [if_pos hproperties] at h
      obtain ⟨locale, time, new, hlocale, htime, hfollows⟩ := processProperties_eq_ok h
      refine ⟨_, time, new, .properties ?_ hproperties hlocale, htime, hfollows⟩
      rwa [Bool.not_eq_true] at hbundle
    · rw [if_neg hproperties] at h
      cases h

/-- An include without a failure goes through its plan: each file of the plan shows once in what the
include adds to the account, as written if its output was due when it was reached and as left alone
otherwise, and nothing else changes in the tree. -/
theorem processInclude_follows_plan {c : Configuration} {item : Include} {s s' : RunState}
    (h : outcome (processInclude c item) s = (.ok [], s')) :
    ∃ k plan time new, k = Task.of c item (s.clock s.ticks).wall ∧ k.Plans s.tree plan ∧
      (plan ≠ [] → s.tree.timeOf k.source = .ok time) ∧ k.Follows time plan new s s' ∧
      new.map RunEvent.output = plan.flatMap k.files ∧
      s'.written = s.written ++ new.filterMap RunEvent.written? ∧
      s'.skipped = s.skipped ++ new.filterMap RunEvent.skipped? ∧
      Grows (RunEvent.writesIn new) s.tree s'.tree := by
  obtain ⟨plan, time, new, hplans, htime, hfollows⟩ := process_eq_ok (processInclude_eq_nil h)
  have hsame : SameFiles s (ticked s) := ⟨rfl, rfl⟩
  refine ⟨_, plan, time, new, rfl, hplans, htime, hfollows.of_sameFiles hsame, hfollows.outputs,
    ?_, ?_, hfollows.grows⟩
  · unfold written
    rw [hfollows.events, List.filterMap_append]
    rfl
  · unfold skipped
    rw [hfollows.events, List.filterMap_append]
    rfl

end Actions

section LinkedTask

/-- A tree in which the properties file of a locale is a link to the include, and the file
maintained by hand is newer than the include. -/
def linkedTree : FileTree :=
  sampleTree
    [(["s".toList, "N.xml".toList], .file sampleDocument 100 true),
      (["s".toList, "N_en.properties".toList], .file (Text.utf8 "a=b") 2000 true),
      (["r".toList, "N_en.properties".toList], .link (Path.ofText "../s/N.xml")),
      (["d".toList, "N_fr.java".toList], .file [] 150 true)]

/-- The state in which the include of the linked tree is processed. -/
def linkedState : RunState :=
  start linkedTree ⟨[]⟩ fun _ => ⟨3000, 3000⟩

/-- The task of that include, which is generated for two locales. -/
def linkedTask : Task :=
  .of (sampleConfiguration (some "en,fr") [.ofName "N.xml"]) (.ofName "N.xml") 3000

/-- The state in which the subclass of the second locale is reached. -/
def linkedReached : RunState :=
  (outcome (do emitBase linkedTask sampleBundle 100; emitLocale linkedTask 100 english)
    (ticked linkedState)).2

/-- The time of an include is read once. When the properties file of the first locale has replaced
the include, the subclass of the second is older than the include and is left alone all the same. -/
theorem class_reached_older_than_include :
    Bundle.ofFile linkedTree linkedTask.source = .ok sampleBundle ∧
      linkedReached.tree.timeOf linkedTask.source = .ok 3000 ∧
      linkedReached.tree.timeOf (linkedTask.classFile (some french)) = .ok 150 ∧
      linkedReached.tree.isReadOnly (linkedTask.classFile (some french)) = .ok false ∧
      (outcome (processInclude linkedTask.configuration linkedTask.item) linkedState).1 = .ok [] ∧
      (outcome (processInclude linkedTask.configuration linkedTask.item) linkedState).2.events =
        linkedReached.events ++
          [.skipped (linkedTask.classFile (some french)) "d/N_fr.java is up to date".toList,
            .written (linkedTask.propertiesFile (some french)) 3000] := by
  decide +kernel

/-- That include goes through its plan all the same. -/
theorem linkedTask_follows_plan :
    ∃ k s' plan time new,
      outcome (processInclude linkedTask.configuration linkedTask.item) linkedState = (.ok [], s') ∧
        Task.Plans k linkedState.tree plan ∧ k.Follows time plan new linkedState s' ∧
        new.map RunEvent.output = plan.flatMap k.files := by
  have hok : (outcome (processInclude linkedTask.configuration linkedTask.item) linkedState).1 =
      .ok [] := by decide +kernel
  have h := outcome_of_fst hok
  obtain ⟨k, plan, time, new, -, hplans, -, hfollows, houtputs, -⟩ := processInclude_follows_plan h
  exact ⟨k, _, plan, time, new, h, hplans, hfollows, houtputs⟩

end LinkedTask

end Generation
end MessageCatalog
