import MessageCatalog.Proofs.Generation.Confinement
import MessageCatalog.Proofs.Generation.Refusal

/-!
# Bundles that cannot be a native class

Whether a bundle can be a native class is found out when the native class is reached, behind all
other outputs of the bundle. A bundle that cannot be one has then gone through a part of its plan,
and what was written on the way stays. Neither header nor implementation is among it.

**Results.**
* `Task.Halts`, `Task.StopsIn`: what a failure at one output leaves, and actions that can fail at
  any output of a plan; sequences and loops of such actions are of that kind again.
* `Task.Rejects`: how processing such a bundle ends.
* `processInclude_rejected`: processing it fails in one of these ways, writes no file of the native
  class, and changes no file at all if no output that was reached has been written.
-/

namespace MessageCatalog

open FileTree RunState

namespace Generation
namespace Task

/-- Processing has failed at an output. There is no event for it, and all files are as they were;
directories for it may have been made. -/
structure Halts (k : Task) (o : Output) (s t : RunState) : Prop where
  events : t.events = s.events
  grows : ∃ p ∈ k.files o, ∃ time, Grows (only p time) s.tree t.tree
  files : KeepsFiles s.tree t.tree

/-- Whenever the action fails, it has gone through the outputs of the plan in front of one at which
it has failed. -/
def StopsIn (k : Task) (includeTime : Time) (plan : List Output) (x : Action Unit) : Prop :=
  ∀ s f t, outcome x s = (.error f, t) → ∃ done o rest new u, plan = done ++ o :: rest ∧
    k.Follows includeTime done new s u ∧ k.Halts o u t

variable {k : Task} {includeTime : Time}

theorem Halts.of_sameFiles {o : Output} {p : Path} (hp : p ∈ k.files o) {s t : RunState}
    (h : SameFiles s t) : k.Halts o s t where
  events := h.events
  grows := by
    rw [h.tree]
    exact ⟨p, hp, 0, .refl _ _⟩
  files := by
    rw [h.tree]
    exact fun place => .refl place _

namespace StopsIn

variable {plan plan' : List Output} {x y : Action Unit}

theorem pure : k.StopsIn includeTime [] (Pure.pure ⟨⟩) := by
  intro s f t h
  cases h

theorem single {o : Output} (h : ∀ s f t, outcome x s = (.error f, t) → k.Halts o s t) :
    k.StopsIn includeTime [o] x := by
  intro s f t hfails
  exact ⟨[], o, [], [], s, rfl, .nil (.refl s), h s f t hfails⟩

theorem seq (hdone : k.Gives includeTime plan x) (hx : k.StopsIn includeTime plan x)
    (hy : k.StopsIn includeTime plan' y) : k.StopsIn includeTime (plan ++ plan') (do x; y) := by
  intro s f t h
  rcases outcome_bind_eq_error.mp h with h | ⟨⟨⟩, u, hfirst, h⟩
  · obtain ⟨done, o, rest, new, v, hplan, hfollows, hhalts⟩ := hx s f t h
    exact ⟨done, o, rest ++ plan', new, v, by simp [hplan], hfollows, hhalts⟩
  · -- all outputs of the first action are then in front of the one that fails
    obtain ⟨new, hfollows⟩ := hdone s u hfirst
    obtain ⟨done, o, rest, new', v, hplan, hfollows', hhalts⟩ := hy u f t h
    exact ⟨plan ++ done, o, rest, new ++ new', v, by simp [hplan], hfollows.append hfollows',
      hhalts⟩

theorem forM {α : Type} {g : α → Action Unit} {plan : α → List Output}
    (hdone : ∀ a, k.Gives includeTime (plan a) (g a))
    (hg : ∀ a, k.StopsIn includeTime (plan a) (g a)) (as : List α) :
    k.StopsIn includeTime (as.flatMap plan) (ForM.forM as g) := by
  induction as with
  | nil => exact pure
  | cons a as ih =>
      rw [List.forM_cons, List.flatMap_cons]
      exact seq (hdone a) (hg a) ih

end StopsIn
end Task

section Actions

variable {k : Task} {includeTime : Time}

/-- An output that cannot be written has its file left as it was. -/
theorem writeIfStale_eq_error {o : Output} {p : Path} (hfiles : k.files o = [p])
    {decision : Decision} {content : Action Bytes} (hcontent : Leads SameFiles content)
    {s t : RunState} {f : Failure}
    (h : outcome (writeIfStale p decision content) s = (.error f, t)) : k.Halts o s t := by
  have hp : p ∈ k.files o := hfiles ▸ List.mem_cons_self
  rw [writeIfStale] at h
  split at h
  · rw [Action.outcome_skip] at h
    cases h
  · rcases Action.outcome_ask_bind (·.isReadOnly p) _ s with ⟨e, hask⟩ | ⟨readOnly, -, hask⟩
    · cases hask.symm.trans h
      exact .of_sameFiles hp (.refl s)
    · have h := hask.symm.trans h
      cases readOnly with
      | true => cases h
      | false =>
          rw [if_neg Bool.false_ne_true] at h
          rcases outcome_bind_eq_error.mp h with h | ⟨bytes, u, hbytes, h⟩
          · have hsame := hcontent s
            rw [h] at hsame
            exact .of_sameFiles hp hsame
          · have hsame := hcontent s
            rw [hbytes] at hsame
            rcases Action.outcome_write_cases p bytes u with
              ⟨time, v, hwrite, -⟩ | ⟨e, v, hwrite, -, hbreaks⟩
            · cases hwrite.symm.trans h
            · cases hwrite.symm.trans h
              obtain ⟨time, hgrows⟩ := hbreaks.grows
              have hfilesKept := hbreaks.files
              rw [hsame.tree] at hgrows hfilesKept
              exact ⟨hbreaks.events.trans hsame.events, ⟨p, hp, time, hgrows⟩, hfilesKept⟩

theorem emit_stopsIn {o : Output} {p : Path} (hfiles : k.files o = [p])
    (rendering : Rendering Text) : k.StopsIn includeTime [o] (emit k p includeTime rendering) := by
  refine .single fun s f t h => ?_
  rw [emit_eq, writeRendered] at h
  rcases Action.outcome_ask_bind _ _ s with ⟨e, hask⟩ | ⟨decision, -, hask⟩
  · cases hask.symm.trans h
    exact .of_sameFiles (hfiles ▸ List.mem_cons_self) (.refl s)
  · refine writeIfStale_eq_error hfiles ?_ (hask.symm.trans h)
    exact Leads.bind SameFiles SameFiles.trans (Action.render_sameFiles rendering)
      fun text => Leads.pure SameFiles.refl text.utf8

theorem emitLocaleProperties_stopsIn (locale : Locale) :
    k.StopsIn includeTime [.propertiesFile (some locale)] (emitLocaleProperties k locale) := by
  have hp : k.propertiesFile (some locale) ∈ k.files (.propertiesFile (some locale)) :=
    List.mem_cons_self
  refine .single fun s f t h => ?_
  rw [emitLocaleProperties_eq, writeLocaleFile] at h
  rcases Action.outcome_ask_bind _ _ s with ⟨e, hask⟩ | ⟨sourceTime, -, hask⟩
  · cases hask.symm.trans h
    exact .of_sameFiles hp (.refl s)
  · have h := hask.symm.trans h
    rcases Action.outcome_ask_bind _ _ s with ⟨e, hask⟩ | ⟨decision, -, hask⟩
    · cases hask.symm.trans h
      exact .of_sameFiles hp (.refl s)
    · exact writeIfStale_eq_error rfl (localeContent_sameFiles locale) (hask.symm.trans h)

theorem emitLocale_stopsIn (locale : Locale) :
    k.StopsIn includeTime (k.localePlan (some locale)) (emitLocale k includeTime locale) := by
  rw [emitLocale_eq, Task.localePlan]
  split
  · exact .seq (gives_emitClass (some locale) _)
      (emit_stopsIn (o := .classFile (some locale)) rfl _) (emitLocaleProperties_stopsIn locale)
  · exact emitLocaleProperties_stopsIn locale

theorem emitBase_stopsIn (b : Bundle) :
    k.StopsIn includeTime (k.localePlan none) (emitBase k b includeTime) := by
  rw [emitBase_eq, Task.localePlan]
  split
  · exact .seq (gives_emitClass none _) (emit_stopsIn (o := .classFile none) rfl _)
      (emit_stopsIn (o := .propertiesFile none) rfl _)
  · exact emit_stopsIn (o := .propertiesFile none) rfl _

/-- The outputs of a bundle in front of the native class. -/
def Task.textPlan (k : Task) (locales : List Locale) : List Output :=
  k.localePlan none ++ locales.flatMap fun locale => k.localePlan (some locale)

theorem emitTexts_gives (b : Bundle) (locales : List Locale) :
    k.Gives includeTime (k.textPlan locales) (emitTexts k b locales includeTime) :=
  .seq (gives_emitBase b) (.forM gives_emitLocale locales)

theorem emitTexts_stopsIn (b : Bundle) (locales : List Locale) :
    k.StopsIn includeTime (k.textPlan locales) (emitTexts k b locales includeTime) :=
  .seq (gives_emitBase b) (emitBase_stopsIn b) (.forM gives_emitLocale emitLocale_stopsIn locales)

/-- The path is that of an accessor class, of a subclass, or of a properties file. -/
def Task.IsText (k : Task) (p : Path) : Prop :=
  ∃ locale, p = k.classFile locale ∨ p = k.propertiesFile locale

theorem emitTexts_onlyWrites (b : Bundle) (locales : List Locale) :
    Leads (OnlyWrites k.IsText) (emitTexts k b locales includeTime) := by
  refine Action.bind_onlyWrites (emitBase_onlyWrites ⟨none, .inl rfl⟩ ⟨none, .inr rfl⟩) fun _ => ?_
  exact Action.forM_onlyWrites fun locale _ =>
    emitLocale_onlyWrites ⟨some locale, .inl rfl⟩ ⟨some locale, .inr rfl⟩

/-- How processing a bundle ends that is refused as a native class: in front of all outputs, at one
of those in front of the native class, or at the native class with all others gone through. -/
inductive Task.Rejects (k : Task) (b : Bundle) (e : GenerationError) (s : RunState) :
    Failure → RunState → Prop
  | unread {f : Failure}
      (unread : ¬ ∃ locales time, k.Reads s.tree b locales ∧ s.tree.timeOf k.source = .ok time) :
      Rejects k b e s f s
  | halted {locales : List Locale} {time : Time} {done rest : List Output} {o : Output}
      {new : List RunEvent} {f : Failure} {u t : RunState} (reads : k.Reads s.tree b locales)
      (dated : s.tree.timeOf k.source = .ok time) (plan : k.textPlan locales = done ++ o :: rest)
      (follows : k.Follows time done new s u) (halts : k.Halts o u t) : Rejects k b e s f t
  | refused {locales : List Locale} {time : Time} {new : List RunEvent} {t : RunState}
      (reads : k.Reads s.tree b locales) (dated : s.tree.timeOf k.source = .ok time)
      (follows : k.Follows time (k.textPlan locales) new s t) :
      Rejects k b e s (.generation e) t

/-- The native class is refused behind everything else. -/
theorem outcome_emitBundle_of_validate {b : Bundle} {e : GenerationError}
    (hmode : k.configuration.mode.isNative = true)
    (hrefused : Native.validate b k.source = .error e) (locales : List Locale) (s : RunState) :
    outcome (emitBundle k b locales includeTime) s =
      match outcome (emitTexts k b locales includeTime) s with
      | (.error f, t) => (.error f, t)
      | (.ok ⟨⟩, u) => (.error (.generation e), u) := by
  have hsplit : emitBundle k b locales includeTime = (do
      emitTexts k b locales includeTime
      emitNative k b includeTime) := by
    rw [emitBundle_eq, emitTexts, forIn_eq_forM, if_pos hmode, bind_assoc]
  have hnative (u : RunState) :
      outcome (emitNative k b includeTime) u = (.error (.generation e), u) := by
    rw [emitNative_eq, writePair, hrefused]
    rfl
  rw [hsplit, outcome_bind]
  rcases outcome (emitTexts k b locales includeTime) s with ⟨f | ⟨⟩, u⟩
  · rfl
  · exact hnative u

theorem emitBundle_rejected {b : Bundle} {e : GenerationError}
    (hmode : k.configuration.mode.isNative = true)
    (hrefused : Native.validate b k.source = .error e) {locales : List Locale} {s : RunState}
    (reads : k.Reads s.tree b locales) (dated : s.tree.timeOf k.source = .ok includeTime) :
    ∃ f t, outcome (emitBundle k b locales includeTime) s = (.error f, t) ∧
      k.Rejects b e s f t ∧ OnlyWrites k.IsText s t := by
  have hwrites : OnlyWrites k.IsText s (outcome (emitTexts k b locales includeTime) s).2 :=
    emitTexts_onlyWrites b locales s
  rw [outcome_emitBundle_of_validate hmode hrefused]
  rcases htexts : outcome (emitTexts k b locales includeTime) s with ⟨f | ⟨⟩, t⟩
  · rw [htexts] at hwrites
    obtain ⟨done, o, rest, new, u, hplan, hfollows, hhalts⟩ :=
      emitTexts_stopsIn b locales s f t htexts
    exact ⟨f, t, rfl, .halted reads dated hplan hfollows hhalts, hwrites⟩
  · rw [htexts] at hwrites
    obtain ⟨new, hfollows⟩ := emitTexts_gives b locales s t htexts
    exact ⟨_, t, rfl, .refused reads dated hfollows, hwrites⟩

theorem processBundle_rejected {b : Bundle} {e : GenerationError}
    (hmode : k.configuration.mode.isNative = true) {s : RunState}
    (hread : Bundle.ofFile s.tree k.source = .ok b)
    (hrefused : Native.validate b k.source = .error e) :
    ∃ f t, outcome (processBundle k) s = (.error f, t) ∧ k.Rejects b e s f t ∧
      OnlyWrites k.IsText s t := by
  rcases processBundle_cases k s with
    ⟨f, hprocess, hunread⟩ | ⟨b', locales, time, hreads, hdated, hprocess⟩
  · refine ⟨f, s, hprocess, .unread ?_, .refl s⟩
    rintro ⟨locales, time, hreads, hdated⟩
    exact hunread ⟨b, locales, time, hreads, hdated⟩
  · cases hread.symm.trans hreads.read
    rw [hprocess]
    exact emitBundle_rejected hmode hrefused hreads hdated

end Actions

section Account

namespace Task

variable {k : Task}

/-- Texts have other last names than header and implementation. -/
theorem IsText.avoids {p : Path} (h : k.IsText p) {name : Text} {d : Char}
    (hname : name.getLast? = some d) (hjava : 'a' ≠ d) (hproperties : 's' ≠ d) :
    Avoids name p := by
  obtain ⟨locale, rfl | rfl⟩ := h
  · exact avoids_of_suffix hname (k.classFile_eq locale) rfl (by decide) hjava
  · exact avoids_of_suffix hname (k.propertiesFile_eq locale) rfl (by decide) hproperties

theorem nativeHeader_not_isText (k : Task) : ¬ k.IsText k.nativeHeader := by
  intro h
  have hlast : (k.nativeStem ++ ".h".toList).getLast? = some 'h' := Text.getLast?_append_of_eq rfl _
  obtain ⟨q, other, heq, -, hne⟩ := h.avoids hlast (by decide) (by decide)
  rw [nativeHeader_eq] at heq
  exact hne (Path.child_injective heq).symm

theorem nativeImplementation_not_isText (k : Task) : ¬ k.IsText k.nativeImplementation := by
  intro h
  have hlast : (k.nativeStem ++ ".cpp".toList).getLast? = some 'p' :=
    Text.getLast?_append_of_eq rfl _
  obtain ⟨q, other, heq, -, hne⟩ := h.avoids hlast (by decide) (by decide)
  rw [nativeImplementation_eq] at heq
  exact hne (Path.child_injective heq).symm

theorem isText_of_mem_localePlan {locale : Option Locale} {o : Output}
    (ho : o ∈ k.localePlan locale) {p : Path} (hp : p ∈ k.files o) : k.IsText p := by
  have hcases : o = .classFile locale ∨ o = .propertiesFile locale := by
    rw [localePlan] at ho
    split at ho
    · simpa using ho
    · exact .inr (List.mem_singleton.mp ho)
  rcases hcases with rfl | rfl
  · exact ⟨locale, .inl (List.mem_singleton.mp hp)⟩
  · exact ⟨locale, .inr (List.mem_singleton.mp hp)⟩

theorem isText_of_mem_textPlan {locales : List Locale} {o : Output} (ho : o ∈ k.textPlan locales)
    {p : Path} (hp : p ∈ k.files o) : k.IsText p := by
  rcases List.mem_append.mp ho with ho | ho
  · exact isText_of_mem_localePlan ho hp
  · obtain ⟨locale, -, ho⟩ := List.mem_flatMap.mp ho
    exact isText_of_mem_localePlan ho hp

theorem Follows.isText {includeTime : Time} {done : List Output} {new : List RunEvent}
    {s t : RunState} (h : k.Follows includeTime done new s t) {locales : List Locale}
    (hdone : ∀ o ∈ done, o ∈ k.textPlan locales) : ∀ event ∈ new, k.IsText event.output := by
  intro event hevent
  have hmem : event.output ∈ done.flatMap k.files := h.outputs ▸ List.mem_map_of_mem hevent
  obtain ⟨o, ho, hp⟩ := List.mem_flatMap.mp hmem
  exact isText_of_mem_textPlan (hdone o ho) hp

/-- If no output has been written, the tree is the same. -/
theorem Follows.tree_of_not_written {includeTime : Time} {plan : List Output}
    {new : List RunEvent} {s t : RunState} (h : k.Follows includeTime plan new s t)
    (hnone : ∀ p time, .written p time ∉ new) : t.tree = s.tree := by
  induction h with
  | nil same => exact same.tree
  | @cons o plan first rest s t u hfirst _ ih =>
      have hrest := ih fun p time hmem => hnone p time (List.mem_append_right _ hmem)
      cases hfirst with
      | skipped _ _ _ _ _ _ tree => exact hrest.trans tree
      | written _ _ _ outputs written =>
          -- an output has at least one file, so there is an event for it
          obtain ⟨p, hp⟩ : ∃ p, p ∈ k.files o := by
            cases o <;> exact ⟨_, List.mem_cons_self⟩
          rw [← outputs] at hp
          obtain ⟨event, hevent, -⟩ := List.mem_map.mp hp
          obtain ⟨q, time, rfl⟩ := written event hevent
          exact absurd (List.mem_append_left _ hevent) (hnone q time)

/-- The account of a rejected bundle names texts only, and all files are as they were unless one of
them has been written. -/
theorem Rejects.account {b : Bundle} {e : GenerationError} {s t : RunState} {f : Failure}
    (h : k.Rejects b e s f t) :
    ∃ new, t.events = s.events ++ new ∧ (∀ event ∈ new, k.IsText event.output) ∧
      ((∀ p time, .written p time ∉ new) → KeepsFiles s.tree t.tree) := by
  cases h with
  | unread _ =>
      refine ⟨[], (List.append_nil _).symm, ?_, fun _ place => .refl place _⟩
      rintro event ⟨⟩
  | @halted locales time done rest o new _ u t reads dated plan follows halts =>
      have hdone : ∀ o' ∈ done, o' ∈ k.textPlan locales := fun o' ho' =>
        plan ▸ List.mem_append_left _ ho'
      refine ⟨new, halts.events.trans follows.events, follows.isText hdone, fun hnone => ?_⟩
      rw [← follows.tree_of_not_written hnone]
      exact halts.files
  | @refused locales time new t reads dated follows =>
      refine ⟨new, follows.events, follows.isText fun o ho => ho, fun hnone => ?_⟩
      rw [follows.tree_of_not_written hnone]
      exact fun place => .refl place _

end Task

/-- An include whose bundle is refused as a native class has a failure. It stops in front of all
outputs, at one of the texts, or behind them, and then for the reason of the refusal. What has been
written until then stays: texts, and neither header nor implementation. -/
theorem processInclude_rejected {c : Configuration} {item : Include} {s : RunState} {b : Bundle}
    {e : GenerationError} (suffix : item.name.endsWith Task.bundleSuffix = true)
    (mode : c.mode.isNative = true)
    (read : Bundle.ofFile s.tree (c.source / Path.ofText item.name) = .ok b)
    (refused : Native.validate b (c.source / Path.ofText item.name) = .error e) :
    ∃ k f t new, k = Task.of c item (s.clock s.ticks).wall ∧ k.Rejects b e (ticked s) f t ∧
      (outcome (processInclude c item) s).1 =
        (if f.isLocal then .ok [⟨item.name, f.message⟩] else .error f) ∧
      (outcome (processInclude c item) s).2.tree = t.tree ∧
      (outcome (processInclude c item) s).2.events = s.events ++ new ∧
      Grows (fun p _ => k.IsText p) s.tree t.tree ∧
      (∀ event ∈ new, k.IsText event.output) ∧
      (¬ k.IsText k.nativeHeader ∧ ¬ k.IsText k.nativeImplementation) ∧
      ((∀ p time, .written p time ∉ new) → KeepsFiles s.tree t.tree) := by
  obtain ⟨f, t, hprocess, hrejects, hwrites⟩ :=
    processBundle_rejected (k := Task.of c item (s.clock s.ticks).wall) (s := ticked s) mode read
      refused
  rw [← process_of_bundle suffix] at hprocess
  obtain ⟨new, hevents, htexts, hkept⟩ := hrejects.account
  refine ⟨_, f, t, new, rfl, hrejects, ?_, ?_, ?_, hwrites.grows, htexts,
    ⟨Task.nativeHeader_not_isText _, Task.nativeImplementation_not_isText _⟩, hkept⟩
  · rw [outcome_processInclude, hprocess]
    dsimp only
    split <;> rfl
  · rw [(processInclude_of_process c item s).1, hprocess]
  · rw [(processInclude_of_process c item s).2.1, hprocess]
    exact hevents

end Account

section Instance

/-- A configuration that generates a native class. -/
def rejectedConfiguration : Configuration :=
  { sampleConfiguration none [.ofName "N.xml"] with mode := .native }

/-- A document with an exception that has no native class. -/
def rejectedDocument : Bytes :=
  Text.utf8
    "<resourceBundle locale=\"en\"><exception name=\"a\"><text/></exception></resourceBundle>"

/-- The bundle of that document. -/
def rejectedBundle : Bundle :=
  ⟨some english, [⟨"a", .exception, some [], [], none, some ⟨none, none, none, none⟩⟩],
    ⟨none, none, none, none, none, none, []⟩⟩

/-- The state in which the document is to be generated. -/
def rejectedState : RunState :=
  start (sampleTree [(["s".toList, "N.xml".toList], .file rejectedDocument 100 true)]) ⟨[]⟩
    fun _ => ⟨3000, 3000⟩

/-- The bundle is refused, and two properties files have been written for it. -/
theorem rejected_leaves_texts :
    (outcome (processInclude rejectedConfiguration (.ofName "N.xml")) rejectedState).1 =
        .ok [⟨"N.xml", "No exception class specified (resource 'a', in s/N.xml)"⟩] ∧
      ∃ (k : Task) (f : Failure) (t : RunState) (new : List RunEvent),
        k.Rejects rejectedBundle ⟨.noNativeClass, some (.ofText "s/N.xml"), some "a"⟩
          (ticked rejectedState) f t ∧
        Grows (fun p _ => k.IsText p) rejectedState.tree t.tree ∧
        new = [.written (.ofText "r/N.properties") 3000,
          .written (.ofText "r/N_en.properties") 3000] := by
  have hsuffix : (Include.ofName "N.xml").name.endsWith Task.bundleSuffix = true := by decide
  have hread : Bundle.ofFile rejectedState.tree
      (rejectedConfiguration.source / Path.ofText (Include.ofName "N.xml").name) =
        .ok rejectedBundle := by
    decide +kernel
  have hrefused : Native.validate rejectedBundle
      (rejectedConfiguration.source / Path.ofText (Include.ofName "N.xml").name) =
        .error ⟨.noNativeClass, some (.ofText "s/N.xml"), some "a"⟩ := by
    decide +kernel
  have hevents :
      (outcome (processInclude rejectedConfiguration (.ofName "N.xml")) rejectedState).2.events =
        [.written (.ofText "r/N.properties") 3000,
          .written (.ofText "r/N_en.properties") 3000] := by
    decide +kernel
  refine ⟨by decide +kernel, ?_⟩
  obtain ⟨k, f, t, new, -, hrejects, -, -, hnew, hgrows, -⟩ :=
    processInclude_rejected (c := rejectedConfiguration) (s := rejectedState) hsuffix rfl hread
      hrefused
  exact ⟨k, f, t, new, hrejects, hgrows, hnew.symm.trans hevents⟩

end Instance

end Generation
end MessageCatalog
