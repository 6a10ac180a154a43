import MessageCatalog.Proofs.Context.Continuation
import MessageCatalog.Proofs.Generation.Traversal

/-!
# Runs one behind the other

A run over two lists of includes, one behind the other, does what a run over the first list and then
one over the second do. The second run begins anew: it remembers no shapes and has reported no
classes. That makes no difference to what it generates, and the warnings about classes that the
first run has reported are the only ones by which it says more.

**Results.**
* `RunState.Continues`: a state of the long run, and one of the run that began anew.
* `processInclude_respects`: an include does the same in both.
* `run_append`: the long run has the effect and the reports of both runs.
-/

namespace MessageCatalog

namespace RunState

/-- The one state has gone on from the past, the other has been started anew on the tree of the
past, and both have gone through the same since. -/
structure Continues (past s s' : RunState) : Prop where
  tree : s.tree = s'.tree
  clock : s.clock = past.clock
  clock' : ∀ n, s'.clock (s'.ticks + n) = past.clock (s.ticks + n)
  events : s.events = past.events ++ s'.events
  context : Context.Continues past.context s.context s'.context

end RunState

open RunState

namespace Action

variable {past : RunState} {α : Type}

theorem ofExcept_respects (e : Except Failure α) : Respects (Continues past) (ofExcept e) :=
  fun _ _ h => ⟨rfl, h⟩

/-- A sequence that begins with a look at the state and uses nothing but the tree. -/
theorem get_bind_respects {f : RunState → Action α} (htree : ∀ s s', s.tree = s'.tree → f s = f s')
    (hf : ∀ s, Respects (Continues past) (f s)) : Respects (Continues past) (get >>= f) := by
  intro s s' h
  rw [outcome_bind_of_ok (outcome_get s), outcome_bind_of_ok (outcome_get s'), htree s s' h.tree]
  exact hf s' s s' h

theorem ask_respects (question : FileTree → Except FileError α) :
    Respects (Continues past) (ask question) := by
  intro s s' h
  rw [outcome_ask, outcome_ask, h.tree]
  exact ⟨rfl, h⟩

theorem render_respects {rendering : Rendering Text}
    (hrendering : Respects (Context.Continues past.context) rendering) :
    Respects (Continues past) (render rendering) := by
  intro s s' h
  obtain ⟨hresult, hcontext⟩ := hrendering s.context s'.context h.context
  rw [outcome_render, outcome_render, hresult]
  exact ⟨rfl, h.tree, h.clock, h.clock', h.events, hcontext⟩

/-- Records of the run itself are no warnings, unless they are meant to be. -/
theorem log_respects {level : LogLevel} (hlevel : level ≠ .warning) (message : Text) :
    Respects (Continues past) (log level message) := by
  intro s s' h
  have hcontext := h.context.record (r := .of level "orchestrator" message)
    fun hwarning => absurd hwarning hlevel
  exact ⟨rfl, h.tree, h.clock, h.clock', h.events, hcontext⟩

theorem readClock_respects : Respects (Continues past) readClock := by
  intro s s' h
  rw [outcome_readClock, outcome_readClock]
  refine ⟨?_, h.tree, h.clock, fun n => ?_, h.events, h.context⟩
  · have hreading := h.clock' 0
    rw [Nat.add_zero, Nat.add_zero, ← h.clock] at hreading
    rw [hreading]
  · have hreading := h.clock' (1 + n)
    rw [← Nat.add_assoc, ← Nat.add_assoc] at hreading
    exact hreading

theorem change_respects (action : FileAction Unit) : Respects (Continues past) (change action) := by
  intro s s' h
  rw [outcome_change, outcome_change, h.tree]
  exact ⟨rfl, rfl, h.clock, h.clock', h.events, h.context⟩

/-- Whatever has become of an output, both accounts get the same event. -/
theorem account_respects (event : RunEvent) :
    Respects (Continues past)
      (modify fun s => { s with events := s.events ++ [event] } : Action Unit) := by
  intro s s' h
  refine ⟨rfl, h.tree, h.clock, h.clock', ?_, h.context⟩
  rw [outcome_modify, outcome_modify, h.events, List.append_assoc]

theorem skip_respects (output : Path) (reason : Text) :
    Respects (Continues past) (skip output reason) :=
  .bind (log_respects (by decide) reason) fun _ => account_respects _

theorem write_respects (output : Path) (content : Bytes) :
    Respects (Continues past) (write output content) :=
  .bind (log_respects (by decide) _) fun _ => .bind readClock_respects fun _ =>
    .bind (change_respects _) fun _ => account_respects _

theorem isClosed_respects (past : RunState) :
    IsClosed fun {_} x => Respects (Continues past) x where
  pure := .pure
  bind := .bind
  ask := fun {_ question} _ => ask_respects question
  skip := skip_respects
  write := write_respects

end Action

namespace Generation

variable {past : RunState} {k : Task} {b : Bundle} {sourceTime : Time}

theorem emitBundle_respects (locales : List Locale) :
    Respects (Continues past) (emitBundle k b locales sourceTime) := by
  have hclosed := Action.isClosed_respects past
  refine hclosed.emitBundle locales (hclosed.emitBase ?_ ?_)
    (hclosed.emitNative (Action.ofExcept_respects _) fun _ => ?_)
  · exact Action.render_respects (Managed.render_respects _ _ _ _)
  · exact Action.render_respects (Properties.render_respects _ _)
  · exact Action.render_respects (.bind (Native.classOf_respects _ _ _) fun _ => .pure _)

section Includes

theorem processBundle_respects : Respects (Continues past) (processBundle k) := by
  rw [processBundle_eq]
  refine Action.get_bind_respects (fun s s' h => by simp only [h]) fun s =>
    .bind (Action.ofExcept_respects _) fun b => ?_
  cases b.locale with
  | none => exact Action.ofExcept_respects _
  | some own =>
      exact .bind (Action.ofExcept_respects _) fun locales =>
        .bind (Action.ask_respects _) fun time => emitBundle_respects locales

theorem processProperties_respects : Respects (Continues past) (processProperties k) := by
  rw [processProperties_eq]
  cases Locale.ofFileName k.item.name Task.propertiesSuffix with
  | none => exact Action.ofExcept_respects _
  | some locale =>
      refine Action.get_bind_respects (fun s s' h => by simp only [h]) fun s =>
        .bind (Action.ofExcept_respects _) fun b => ?_
      by_cases hmanaged : k.configuration.mode.isManaged = true
      · rw [if_pos hmanaged]
        exact .bind (Action.ask_respects _) fun time =>
          (Action.isClosed_respects past).emitLocaleClass locale
      · rw [if_neg hmanaged]
        exact .pure _

theorem process_respects : Respects (Continues past) (process k) := by
  rw [process_eq]
  by_cases hbundle : k.item.name.endsWith Task.bundleSuffix = true
  · rw [if_pos hbundle]
    exact processBundle_respects
  · rw [if_neg hbundle]
    by_cases hproperties : k.item.name.endsWith Task.propertiesSuffix = true
    · rw [if_pos hproperties]
      exact processProperties_respects
    · rw [if_neg hproperties]
      exact Action.ofExcept_respects _

/-- An include does the same behind an earlier run, whether it fails or not. -/
theorem processInclude_respects (c : Configuration) (item : Include) :
    Respects (Continues past) (processInclude c item) := by
  rw [processInclude_eq]
  refine .bind Action.readClock_respects fun reading =>
    .tryCatch (.bind process_respects fun _ => .pure _) fun failure => ?_
  by_cases hlocal : failure.isLocal = true
  · rw [if_pos hlocal]
    exact .bind (Action.log_respects (by decide) _) fun _ => .pure _
  · rw [if_neg hlocal]
    exact .throw _

end Includes

section Runs

/-- A state continues itself if its context is faithful: a run that begins anew on its tree, with
the readings of the clock that are still to come, has gone through nothing yet. -/
theorem continues_start {past : RunState} (h : past.context.IsFaithful) {clock : Clock}
    (hclock : ∀ n, clock n = past.clock (past.ticks + n)) :
    Continues past past (start past.tree past.context.table clock) where
  tree := rfl
  clock := rfl
  clock' n := by
    rw [← hclock]
    exact congrArg clock (Nat.zero_add n)
  events := (List.append_nil _).symm
  context := Context.continues_start h

theorem written_append {past s s' : RunState} (h : Continues past s s') :
    s.written = past.written ++ s'.written := by
  unfold written
  rw [h.events, List.filterMap_append]

theorem skipped_append {past s s' : RunState} (h : Continues past s s') :
    s.skipped = past.skipped ++ s'.skipped := by
  unfold skipped
  rw [h.events, List.filterMap_append]

/-- Behind some includes, a run that begins anew on their tree continues them. -/
theorem includes_continue {c : Configuration} {items : List Include} {tree : FileTree}
    {table : ShapeTable} {clock : Clock} {failures : List IncludeFailure} {t : RunState}
    (h : outcome (items.flatMapM (processInclude c)) (start tree table clock) = (.ok failures, t)) :
    Continues t t (start t.tree table fun n => clock (t.ticks + n)) := by
  -- the includes, compared with themselves, show that the context is faithful
  have hbegin : Continues (start tree table clock) (start tree table clock)
      (start tree table clock) :=
    continues_start (Context.isFaithful_start table) fun n => congrArg clock (Nat.zero_add n).symm
  obtain ⟨t', ht', hsame⟩ :=
    (Respects.flatMapM (processInclude_respects c) items).outcome_eq hbegin h
  obtain rfl : t = t' := congrArg Prod.snd (h.symm.trans ht')
  have hanew : Continues t t (start t.tree t.context.table fun n => clock (t.ticks + n)) :=
    continues_start hsame.context.isFaithful fun n => by rw [hsame.clock]; rfl
  rw [hsame.context.table] at hanew
  exact hanew

/-- If a run over the first includes and then one over the others return reports, a run over all of
them does: it leaves the same tree, and it reports what both do, except that a class which the first
run has reported missing is not reported once more. -/
theorem run_append {c : Configuration} {A B : List Include} {tree : FileTree} {table : ShapeTable}
    {clock : Clock} {rA rB : Report} {sA sB : RunState}
    (hA : outcome (run { c with includes := A }) (start tree table clock) = (.ok rA, sA))
    (hB : outcome (run { c with includes := B })
      (start sA.tree table fun n => clock (sA.ticks + n)) = (.ok rB, sB)) :
    ∃ r s, outcome (run { c with includes := A ++ B }) (start tree table clock) = (.ok r, s) ∧
      s.tree = sB.tree ∧
      r.written = rA.written ++ rB.written ∧
      r.skipped = rA.skipped ++ rB.skipped ∧
      r.failures = rA.failures ++ rB.failures ∧
      ∃ classes : List Text,
        (∀ name, name ∈ classes ↔ Context.missingClass name ∈ rA.warnings) ∧
        r.warnings =
          rA.warnings ++ rB.warnings.filter (· ∉ classes.map Context.missingClass) := by
  obtain ⟨failuresA, t, hincludesA, rfl, rfl⟩ := run_eq_ok hA
  obtain ⟨failuresB, u', hincludesB, rfl, rfl⟩ := run_eq_ok hB
  have hanew := includes_continue (c := c) hincludesA
  obtain ⟨u, hincludesB, hcontinues⟩ :=
    (Respects.flatMapM (processInclude_respects c) B).outcome_eq hanew hincludesB
  have hincludes : outcome ((A ++ B).flatMapM (processInclude c)) (start tree table clock) =
      (.ok (failuresA ++ failuresB), u) :=
    outcome_flatMapM_append hincludesA hincludesB
  have hrun := run_of_includes (c := { c with includes := A ++ B }) hincludes
  exact ⟨_, _, hrun, hcontinues.tree, written_append hcontinues, skipped_append hcontinues, rfl,
    t.context.reported, hanew.context.isFaithful.reports, hcontinues.context.warnings⟩

/-- A tree with two bundles whose exceptions have a class that nothing describes. -/
def exceptionTree : FileTree :=
  let document := Text.utf8 <|
    "<resourceBundle locale=\"en\"><exception name=\"E\" className=\"x.Y\">".toList
      ++ "<text>t</text></exception></resourceBundle>".toList
  sampleTree
    [(["s".toList, "A.xml".toList], .file document 0 true),
      (["s".toList, "B.xml".toList], .file document 0 true)]

/-- The report of a run over the one bundle and a file that does not exist. -/
def firstReport : Report where
  written :=
    let names : List Text := ["d/A.java", "r/A.properties", "d/A_en.java", "r/A_en.properties"]
    names.map Path.ofText
  skipped := []
  warnings := [Context.missingClass "x.Y"]
  failures :=
    [⟨"C.xml",
      "Cannot read resource bundle s/C.xml: [Errno 2] No such file or directory: 's/C.xml'"⟩]

/-- The report of a run over the other bundle. -/
def secondReport : Report where
  written :=
    let names : List Text := ["d/B.java", "r/B.properties", "d/B_en.java", "r/B_en.properties"]
    names.map Path.ofText
  skipped := []
  warnings := [Context.missingClass "x.Y"]
  failures := []

/-- Both runs report the missing class, and the run over all three includes reports it once. -/
theorem exceptionTree_run_append :
    ∃ r s, outcome
        (run (sampleConfiguration none [.ofName "A.xml", .ofName "C.xml", .ofName "B.xml"]))
        (start exceptionTree ⟨[]⟩ fun _ => ⟨3000, 3000⟩) = (.ok r, s) ∧
      r.written = firstReport.written ++ secondReport.written ∧
      r.failures = firstReport.failures ∧
      r.warnings = [Context.missingClass "x.Y"] := by
  have hA : (outcome (run (sampleConfiguration none [.ofName "A.xml", .ofName "C.xml"]))
      (start exceptionTree ⟨[]⟩ fun _ => ⟨3000, 3000⟩)).1 = .ok firstReport := by
    decide +kernel
  have hB : (outcome (run (sampleConfiguration none [.ofName "B.xml"]))
      (start (outcome (run (sampleConfiguration none [.ofName "A.xml", .ofName "C.xml"]))
        (start exceptionTree ⟨[]⟩ fun _ => ⟨3000, 3000⟩)).2.tree ⟨[]⟩ fun _ => ⟨3000, 3000⟩)).1 =
        .ok secondReport := by
    decide +kernel
  obtain ⟨r, s, hrun, -, hwritten, -, hfailures, classes, hclasses, hwarnings⟩ :=
    run_append (c := sampleConfiguration none []) (A := [.ofName "A.xml", .ofName "C.xml"])
      (B := [.ofName "B.xml"]) (outcome_of_fst hA) (outcome_of_fst hB)
  refine ⟨r, s, hrun, hwritten, hfailures, ?_⟩
  have hreported : "x.Y".toList ∈ classes := (hclasses "x.Y").mpr List.mem_cons_self
  have hdropped : secondReport.warnings.filter (· ∉ classes.map Context.missingClass) = [] :=
    List.filter_eq_nil_iff.mpr fun message hmessage => by
      rw [List.mem_singleton.mp hmessage, decide_eq_true_iff, not_not]
      exact List.mem_map_of_mem hreported
  rw [hwarnings, hdropped]
  rfl

end Runs

end Generation
end MessageCatalog
