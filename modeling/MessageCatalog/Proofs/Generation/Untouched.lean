import MessageCatalog.Proofs.Generated.Acceptance
import MessageCatalog.Proofs.Generation.Confinement
import MessageCatalog.Proofs.Generation.Refusal
import MessageCatalog.Proofs.Template.Mention

/-!
# Includes that leave everything as it is

The accessor class is the first output of a bundle, and it is rendered before it is opened for
writing. So where it is due, a bundle that is refused as an accessor class has nothing written for
it. Which bundles these are is known from the resources alone.

A refusal names the source and the first resource in the way, unless the number of its arguments is
too long to be written: an index of more digits than a number may have is not converted, and one
that is the largest number of that many digits stands for one argument more.

**Results.**
* `processInclude_untouched`: a refused accessor class leaves tree and account as they are.
* `renderings_refused_iff`: which bundles are refused as accessor classes and as properties files,
  for which reason, and what is left behind.
-/

namespace MessageCatalog

open FileTree RunState

namespace Generation

variable {k : Task} {b : Bundle} {s : RunState} {time : Time}

/-- An output that is due is not begun if its content is refused. -/
theorem emit_of_refused {output : Path} {rendering : Rendering Text} {e : RenderError}
    {d : Decision} (hdecision : Decision.ofOutput s.tree time output k.configuration.force = .ok d)
    (hstale : d.isCurrent = false) (hwritable : s.tree.isReadOnly output = .ok false)
    (hrefused : (outcome rendering s.context).1 = .error e) :
    ∃ t, outcome (emit k output time rendering) s = (.error (.ofRendering e), t) ∧
      SameFiles s t := by
  have hask : outcome (Action.ask fun t =>
      Decision.ofOutput t time output k.configuration.force) s = (.ok d, s) := by
    rw [Action.outcome_ask, hdecision]
    rfl
  have hreadOnly : outcome (Action.ask (·.isReadOnly output)) s = (.ok false, s) := by
    rw [Action.outcome_ask, hwritable]
    rfl
  have hrender : outcome (Action.render rendering) s =
      (.error (.ofRendering e), { s with context := (outcome rendering s.context).2 }) := by
    rw [Action.outcome_render, hrefused]
    rfl
  refine ⟨{ s with context := (outcome rendering s.context).2 }, ?_, rfl, rfl⟩
  rw [emit_eq, writeRendered, outcome_bind_of_ok hask, writeIfStale, if_neg (Bool.eq_false_iff.mp hstale),
    outcome_bind_of_ok hreadOnly, if_neg Bool.false_ne_true]
  exact outcome_bind_of_error (outcome_bind_of_error hrender)

/-- The accessor class of the bundle is refused, in whatever context. -/
def Task.RefusesClass (k : Task) (b : Bundle) : Prop :=
  ∃ x e, (outcome (Managed.render k.configuration.style b k.className k.header
    (some k.item.baseClass)) x).1 = .error e

theorem Task.refusesClass_iff :
    k.RefusesClass b ↔ ∃ r ∈ b.resources, r.LacksSignature := by
  unfold RefusesClass
  simp only [Managed.render_isRefused_iff]
  exact ⟨fun ⟨_, h⟩ => h, fun h => ⟨.start ⟨[]⟩, h⟩⟩

theorem emitBundle_untouched (locales : List Locale) (hrenders : k.RendersClass s.tree time)
    (hrefused : k.RefusesClass b) :
    ∃ f t, outcome (emitBundle k b locales time) s = (.error f, t) ∧ SameFiles s t := by
  obtain ⟨e, herror⟩ := (Managed.render_isRefused_iff k.configuration.style b k.className k.header
    (some k.item.baseClass) s.context).mpr (Task.refusesClass_iff.mp hrefused)
  obtain ⟨d, hdecision, hstale⟩ := hrenders.stale
  obtain ⟨t, hemit, hsame⟩ := emit_of_refused hdecision hstale hrenders.writable herror
  refine ⟨.ofRendering e, t, ?_, hsame⟩
  -- the accessor class is the first action of the first part
  rw [emitBundle_eq, emitBase_eq, if_pos hrenders.mode]
  exact outcome_bind_of_error (outcome_bind_of_error hemit)

/-- A bundle whose accessor class is due and is refused fails, and nothing is written for it. -/
theorem processInclude_untouched {c : Configuration} {item : Include}
    (suffix : item.name.endsWith Task.bundleSuffix = true)
    (read : Bundle.ofFile s.tree (c.source / Path.ofText item.name) = .ok b)
    (due : ∀ time, s.tree.timeOf (c.source / Path.ofText item.name) = .ok time →
      (Task.of c item (s.clock s.ticks).wall).RendersClass s.tree time)
    (refused : (Task.of c item (s.clock s.ticks).wall).RefusesClass b) :
    (outcome (processInclude c item) s).1 ≠ .ok [] ∧
      SameFiles s (outcome (processInclude c item) s).2 := by
  have hprocess : ∃ f t, outcome (process (.of c item (s.clock s.ticks).wall)) (ticked s) =
      (.error f, t) ∧ SameFiles s t := by
    rw [process_of_bundle suffix]
    rcases processBundle_cases (.of c item (s.clock s.ticks).wall) (ticked s) with
      ⟨f, hprocess, -⟩ | ⟨b', locales, time, hreads, hdated, hprocess⟩
    · exact ⟨f, ticked s, hprocess, rfl, rfl⟩
    · cases read.symm.trans hreads.read
      obtain ⟨f, t, hfails, hsame⟩ :=
        emitBundle_untouched (s := ticked s) locales (due time hdated) refused
      exact ⟨f, t, hprocess.trans hfails, hsame.tree, hsame.events⟩
  obtain ⟨f, t, hprocess, hsame⟩ := hprocess
  obtain ⟨htree, hevents, -⟩ := processInclude_of_process c item s
  rw [hprocess] at htree hevents
  refine ⟨fun hnone => ?_, htree.trans hsame.tree, hevents.trans hsame.events⟩
  have hfine := processInclude_eq_nil (outcome_of_fst hnone)
  rw [hprocess] at hfine
  cases hfine

/-- An accessor class is refused exactly if some resource has no text, an index beyond the parameter
limit, or one with too many digits, and for the first such resource. If no index needs too long a
number, only texts and limit matter, and the error names the source and the first resource. A
properties file is refused exactly if some resource has no text, and for the first of these. So a
bundle that is accepted as an accessor class is accepted as a properties file, and one that is
refused where the class is due has nothing written for it. -/
theorem renderings_refused_iff (b : Bundle) :
    (∀ style className header baseClass x,
      let rendered := (outcome (Managed.render style b className header baseClass) x).1
      ((∃ e, rendered = .error e) ↔ ∃ r ∈ b.resources, r.LacksSignature) ∧
      (∀ e, rendered = .error e ↔
        ∃ r, IsFirst Resource.LacksSignature b.resources r ∧ r.Refuses header.source e) ∧
      (b.HasShortIndices →
        ((∃ e, rendered = .error e) ↔ ∃ r ∈ b.resources, r.IsBeyondLimit) ∧
        ∀ e, rendered = .error e → ∃ r cause, IsFirst Resource.IsBeyondLimit b.resources r ∧
          e = .generation ⟨cause, some header.source, some r.name⟩)) ∧
    (∀ className header x,
      let rendered := (outcome (Properties.render b className header) x).1
      ((∃ e, rendered = .error e) ↔ ∃ r ∈ b.resources, r.text = none) ∧
      ∀ e, rendered = .error e ↔ ∃ r, IsFirst (·.text = none) b.resources r ∧
        e = .generation ⟨.noText, some header.source, some r.name⟩) ∧
    (∀ style className header baseClass x text,
      (outcome (Managed.render style b className header baseClass) x).1 = .ok text →
        ∀ className' header' x',
          ∃ text', (outcome (Properties.render b className' header') x').1 = .ok text') ∧
    ∀ (c : Configuration) (item : Include) (s : RunState),
      item.name.endsWith Task.bundleSuffix = true →
      Bundle.ofFile s.tree (c.source / Path.ofText item.name) = .ok b →
      (∀ time, s.tree.timeOf (c.source / Path.ofText item.name) = .ok time →
        (Task.of c item (s.clock s.ticks).wall).RendersClass s.tree time) →
      (Task.of c item (s.clock s.ticks).wall).RefusesClass b →
      (outcome (processInclude c item) s).1 ≠ .ok [] ∧
        SameFiles s (outcome (processInclude c item) s).2 := by
  refine ⟨fun style className header baseClass x =>
      ⟨?_, fun e => ?_, fun hshort => ⟨?_, fun e => ?_⟩⟩,
    fun className header x => ⟨?_, fun e => ?_⟩,
    fun style className header baseClass x text hok className' header' x' => ?_,
    fun c item s suffix read due refused => processInclude_untouched suffix read due refused⟩
  · exact Managed.render_isRefused_iff style b className header baseClass x
  · exact Managed.render_eq_error
  · exact Managed.render_isRefused_iff_of_short hshort
  · exact Managed.render_eq_generation hshort
  · exact Properties.render_isRefused_iff
  · exact Properties.render_eq_error
  · exact properties_of_managed ⟨text, hok⟩

/-- A bundle with one message. -/
def messageBundle (text : Text) : Bundle :=
  { sampleBundle with resources := [⟨"a", .message, some text, [], none, none⟩] }

/-- A document with a message that needs one argument too many. -/
def oversizedDocument : Bytes :=
  Text.utf8 ("<resourceBundle locale=\"en\">" ++
    "<message name=\"a\"><text>\x7b255\x7d</text></message></resourceBundle>")

/-- The state in which that document is to be generated. -/
def oversizedState : RunState :=
  start (sampleTree [(["s".toList, "N.xml".toList], .file oversizedDocument 100 true)]) ⟨[]⟩
    fun _ => ⟨3000, 3000⟩

/-- The task of the include in that state. -/
def oversizedTask : Task :=
  .of (sampleConfiguration none []) (.ofName "N.xml") 3000

theorem oversizedTask_rendersClass (time : Time) :
    oversizedTask.RendersClass oversizedState.tree time := by
  have hmissing : oversizedState.tree.timeOf (oversizedTask.classFile none) =
      .error ⟨.notFound, oversizedTask.classFile none⟩ := by
    decide +kernel
  refine ⟨rfl, ⟨.missing (oversizedTask.classFile none), ?_, rfl⟩, by decide +kernel⟩
  have hforce : ¬ oversizedTask.configuration.force = true := by decide
  rw [Decision.ofOutput, if_neg hforce, hmissing]

/-- The bundle of that document. -/
def oversizedBundle : Bundle :=
  messageBundle "\x7b255\x7d"

theorem isIndexOf_oversized {digits : Text} :
    Template.IsIndexOf digits "\x7b255\x7d" ↔ digits = "255".toList := by
  have hruns : Template.indexRuns "\x7b255\x7d" = ["255".toList] := by decide +kernel
  rw [← Template.mem_indexRuns_iff, hruns, List.mem_singleton]

theorem oversizedBundle_hasShortIndices : oversizedBundle.HasShortIndices := by
  intro r hr text digits htext hindex
  obtain rfl := List.mem_singleton.mp hr
  cases htext
  obtain rfl := isIndexOf_oversized.mp hindex
  rintro (hlength | hlargest)
  · exact absurd hlength (by decide)
  · have hbound : 10 ^ 3 ≤ 10 ^ Text.maxDigits := Nat.pow_le_pow_right (by decide) (by decide)
    rw [← hlargest] at hbound
    exact absurd hbound (by decide +kernel)

theorem oversizedBundle_beyondLimit : ∃ r ∈ oversizedBundle.resources, r.IsBeyondLimit :=
  ⟨_, List.mem_cons_self, .inr ⟨_, _, rfl, isIndexOf_oversized.mpr rfl, by decide +kernel⟩⟩

/-- A message whose index has as many nines as a number may have digits is refused without naming
it, and one that needs one argument too many is refused by name. The document with the latter is
refused in front of its first output, and nothing is written for it. -/
theorem oversized_untouched :
    (∀ x, (outcome (Managed.render .direct
      (messageBundle ('\x7b' :: List.replicate Text.maxDigits '9')) "N"
      ⟨.ofText "N.xml", true, []⟩ none) x).1 = .error .numberTooLong) ∧
    (∀ x, ∃ cause, (outcome (Managed.render .direct oversizedBundle "N"
      ⟨.ofText "N.xml", true, []⟩ none) x).1 =
        .error (.generation ⟨cause, some (.ofText "N.xml"), some "a"⟩)) ∧
    (outcome (processInclude (sampleConfiguration none []) (.ofName "N.xml")) oversizedState).1 ≠
        .ok [] ∧
      SameFiles oversizedState
        (outcome (processInclude (sampleConfiguration none []) (.ofName "N.xml"))
          oversizedState).2 := by
  obtain ⟨hclass, -, -, hinclude⟩ := renderings_refused_iff oversizedBundle
  refine ⟨fun x => ?_, fun x => ?_, ?_⟩
  · obtain ⟨-, herror, -⟩ := (renderings_refused_iff
      (messageBundle ('\x7b' :: List.replicate Text.maxDigits '9'))).1 .direct "N"
        ⟨.ofText "N.xml", true, []⟩ none x
    have hrefuses : Resource.Refuses
        ⟨"a", .message, some ('\x7b' :: List.replicate Text.maxDigits '9'), [], none, none⟩
        (.ofText "N.xml") .numberTooLong :=
      .number rfl Template.isIndexOf_nines Template.isLong_nines
    have hlacks := (Resource.exists_refuses_iff _ _).mp ⟨_, hrefuses⟩
    exact (herror _).mpr ⟨_, isFirst_cons_iff.mpr (.inl ⟨hlacks, rfl⟩), hrefuses⟩
  · obtain ⟨-, -, hshort⟩ := hclass .direct "N" ⟨.ofText "N.xml", true, []⟩ none x
    obtain ⟨hrefused, hnamed⟩ := hshort oversizedBundle_hasShortIndices
    obtain ⟨e, herror⟩ := hrefused.mpr oversizedBundle_beyondLimit
    obtain ⟨r, cause, hfirst, rfl⟩ := hnamed e herror
    obtain rfl := List.mem_singleton.mp hfirst.mem
    exact ⟨cause, herror⟩
  · have hread : Bundle.ofFile oversizedState.tree (.ofText "s" / .ofText "N.xml") =
        .ok oversizedBundle := by
      decide +kernel
    obtain ⟨r, hr, hbeyond⟩ := oversizedBundle_beyondLimit
    have hlacks := (oversizedBundle_hasShortIndices r hr).lacksSignature_iff.mpr hbeyond
    exact hinclude _ _ _ (by decide) hread (fun time _ => oversizedTask_rendersClass time)
      (Task.refusesClass_iff.mpr ⟨r, hr, hlacks⟩)

end Generation
end MessageCatalog
