import MessageCatalog.Managed.Source
import MessageCatalog.Native.Source
import MessageCatalog.Proofs.Computation
import MessageCatalog.Properties.File

/-!
# Renderings behind an earlier run

What a context remembers has no effect on what is rendered: the answers it keeps are those of the
table, and a class that has been reported missing is missing still. Rendering can therefore not tell
a context that continues an earlier run from one that has just been started, and only the warnings
about classes that the earlier run has reported are left out.

**Results.**
* `Context.IsFaithful`: what a context remembers is true; renderings keep it so.
* `Context.resolve_of_isFaithful`: the shape of a class does not depend on what is remembered.
* `Context.Continues`: a context that began where an earlier run ended, and one that began anew.
* `Managed.render_respects`, `Native.classOf_respects`, `Properties.render_respects`: the same
  is rendered in both.
-/

namespace MessageCatalog

section Warnings

namespace LogRecord

theorem warnings_append (log log' : List LogRecord) :
    warnings (log ++ log') = warnings log ++ warnings log' := by
  unfold warnings
  rw [List.filter_append, List.map_append]

/-- The messages that a record adds to the warnings. -/
theorem warnings_singleton (r : LogRecord) :
    warnings [r] = if r.level = .warning then [r.message] else [] := by
  unfold warnings
  by_cases h : r.level = .warning
  · simp [h]
  · simp [h]

end LogRecord

namespace Context

open LogRecord

theorem missingClass_injective : Function.Injective missingClass := by
  intro name name' h
  unfold missingClass at h
  exact List.append_cancel_left (List.append_cancel_right h)

/-- The record does not report a class as missing. -/
def IsNeutral (r : LogRecord) : Prop :=
  r.level = .warning → ∀ name, r.message ≠ missingClass name

/-- What a context remembers is true: the kept answers are those of the table, and the classes that
have been reported are those that the log reports. -/
structure IsFaithful (c : Context) : Prop where
  answers : ∀ name answer, c.consulted.lookup name = some answer → answer = c.table.lookup name
  reports : ∀ name, name ∈ c.reported ↔ missingClass name ∈ warnings c.log

theorem isFaithful_start (table : ShapeTable) : (start table).IsFaithful where
  answers _ _ h := by cases h
  reports name := by simp [start, warnings]

/-- The answer is the one of the table, whether it is kept or not. -/
theorem consult_fst {c : Context} (hc : c.IsFaithful) (name : Text) :
    (c.consult name).1 = c.table.lookup name := by
  unfold consult
  cases hlookup : c.consulted.lookup name with
  | some answer => exact hc.answers name answer hlookup
  | none => rfl

/-- Nothing but the kept answers can have changed. -/
theorem consult_snd (c : Context) (name : Text) :
    (c.consult name).2 = { c with consulted := (c.consult name).2.consulted } := by
  unfold consult
  cases c.consulted.lookup name with
  | some answer => rfl
  | none => rfl

theorem lookup_append_singleton {name name' : Text} {answer : Option ConstructorShape}
    (answers : List (Text × Option ConstructorShape)) (h : answers.lookup name = none) :
    (answers ++ [(name, answer)]).lookup name' =
      if name' = name then some answer else answers.lookup name' := by
  rw [List.lookup_append]
  by_cases hname : name' = name
  · subst hname
    simp [h]
  · have hne : (name' == name) = false := by simpa using hname
    simp [List.lookup_cons, hname, hne]

theorem IsFaithful.consult {c : Context} (hc : c.IsFaithful) (name : Text) :
    (c.consult name).2.IsFaithful := by
  unfold Context.consult
  cases hlookup : c.consulted.lookup name with
  | some answer => exact hc
  | none =>
      refine ⟨fun name' answer h => ?_, hc.reports⟩
      simp only [lookup_append_singleton _ hlookup] at h
      by_cases hname : name' = name
      · rw [if_pos hname, Option.some.injEq] at h
        rw [hname, ← h]
      · rw [if_neg hname] at h
        exact hc.answers name' answer h

theorem IsFaithful.record {c : Context} (hc : c.IsFaithful) {r : LogRecord} (hr : IsNeutral r) :
    (c.record r).IsFaithful := by
  refine ⟨hc.answers, fun name => ?_⟩
  have hlog : (c.record r).log = c.log ++ [r] := rfl
  have hreported : (c.record r).reported = c.reported := rfl
  rw [hlog, hreported, warnings_append, warnings_singleton, List.mem_append, hc.reports]
  by_cases hlevel : r.level = .warning
  · rw [if_pos hlevel, List.mem_singleton]
    exact (or_iff_left fun h => hr hlevel name h.symm).symm
  · rw [if_neg hlevel]
    simp

theorem reported_reportMissing {c : Context} {name : Text} (h : name ∉ c.reported) :
    c.reportMissing name =
      { c with
        reported := c.reported ++ [name]
        log := c.log ++ [.of .warning "context" (missingClass name)] } :=
  if_neg h

theorem IsFaithful.reportMissing {c : Context} (hc : c.IsFaithful) (name : Text) :
    (c.reportMissing name).IsFaithful := by
  by_cases hname : name ∈ c.reported
  · have hsame : c.reportMissing name = c := if_pos hname
    rw [hsame]
    exact hc
  · rw [reported_reportMissing hname]
    refine ⟨hc.answers, fun name' => ?_⟩
    have hwarning : warnings [.of .warning "context" (missingClass name)] = [missingClass name] :=
      rfl
    rw [warnings_append, hwarning, List.mem_append, List.mem_append, hc.reports name',
      List.mem_singleton, List.mem_singleton, missingClass_injective.eq_iff]

/-- The shape of a class is what the table or the hints say, whatever the context remembers; only a
class that neither knows is reported. -/
theorem resolve_of_isFaithful {c : Context} (hc : c.IsFaithful) (name : Text) (hints : List Text) :
    c.resolve name hints =
      match c.table.lookup name with
      | some shape => (some shape, (c.consult name).2)
      | none =>
          if (ConstructorShape.ofHints hints).isEmpty then
            (none, (c.consult name).2.reportMissing name)
          else (some (ConstructorShape.ofHints hints), (c.consult name).2) := by
  have hanswer := consult_fst hc name
  unfold resolve
  rcases hconsult : c.consult name with ⟨answer, c'⟩
  rw [hconsult] at hanswer
  rw [← hanswer]
  cases answer with
  | some shape => rfl
  | none => rfl

end Context

end Warnings

namespace Context

open LogRecord

/-- The warnings that are not about a class which the earlier run has reported. -/
def unreported (past : Context) (messages : List Text) : List Text :=
  messages.filter (· ∉ past.reported.map missingClass)

/-- The one context has gone on from the past, the other has been started anew, and both have gone
through the same since. -/
structure Continues (past c c' : Context) : Prop where
  table : c.table = past.table
  table' : c'.table = past.table
  isFaithful : c.IsFaithful
  isFaithful' : c'.IsFaithful
  reported : ∀ name, name ∈ c.reported ↔ name ∈ past.reported ∨ name ∈ c'.reported
  warnings : warnings c.log =
    LogRecord.warnings past.log ++ past.unreported (LogRecord.warnings c'.log)

theorem continues_start {past : Context} (h : past.IsFaithful) :
    Continues past past (start past.table) where
  table := rfl
  table' := rfl
  isFaithful := h
  isFaithful' := isFaithful_start past.table
  reported name := by simp [start]
  warnings := by simp [start, LogRecord.warnings, unreported]

theorem unreported_of_not_mem {past : Context} {message : Text}
    (h : message ∉ past.reported.map missingClass) : past.unreported [message] = [message] :=
  List.filter_eq_self.mpr fun _ hmem => by
    rw [List.mem_singleton.mp hmem]
    exact decide_eq_true h

theorem unreported_of_reported {past : Context} {name : Text} (h : name ∈ past.reported) :
    past.unreported [missingClass name] = [] :=
  List.filter_eq_nil_iff.mpr fun _ hmem => by
    rw [List.mem_singleton.mp hmem, decide_eq_true_iff, not_not]
    exact List.mem_map_of_mem h

theorem unreported_append (past : Context) (messages messages' : List Text) :
    past.unreported (messages ++ messages') =
      past.unreported messages ++ past.unreported messages' :=
  List.filter_append ..

namespace Continues

variable {past c c' : Context}

theorem consult (h : Continues past c c') (name : Text) :
    Continues past (c.consult name).2 (c'.consult name).2 := by
  have hc := h.isFaithful.consult name
  have hc' := h.isFaithful'.consult name
  rw [consult_snd] at hc hc'
  rw [consult_snd c, consult_snd c']
  exact ⟨h.table, h.table', hc, hc', h.reported, h.warnings⟩

theorem record (h : Continues past c c') {r : LogRecord} (hr : IsNeutral r) :
    Continues past (c.record r) (c'.record r) := by
  refine ⟨h.table, h.table', h.isFaithful.record hr, h.isFaithful'.record hr, h.reported, ?_⟩
  have hlog : (c.record r).log = c.log ++ [r] := rfl
  have hlog' : (c'.record r).log = c'.log ++ [r] := rfl
  rw [hlog, hlog', warnings_append, warnings_append, h.warnings, unreported_append,
    List.append_assoc, warnings_singleton]
  by_cases hlevel : r.level = .warning
  · have hnot : r.message ∉ past.reported.map missingClass := by
      intro hmem
      obtain ⟨name, -, hname⟩ := List.mem_map.mp hmem
      exact hr hlevel name hname.symm
    rw [if_pos hlevel, unreported_of_not_mem hnot]
  · rw [if_neg hlevel]
    rfl

/-- The warning about a missing class is left out exactly if the past has reported the class. -/
theorem reportMissing (h : Continues past c c') (name : Text) :
    Continues past (c.reportMissing name) (c'.reportMissing name) := by
  have hc := h.isFaithful.reportMissing name
  have hc' := h.isFaithful'.reportMissing name
  have hwarning :
      LogRecord.warnings [.of .warning "context" (missingClass name)] = [missingClass name] := rfl
  by_cases hname' : name ∈ c'.reported
  · have hsame : c.reportMissing name = c := if_pos ((h.reported name).mpr (Or.inr hname'))
    have hsame' : c'.reportMissing name = c' := if_pos hname'
    rw [hsame, hsame']
    exact h
  by_cases hname : name ∈ c.reported
  · have hpast : name ∈ past.reported := ((h.reported name).mp hname).resolve_right hname'
    have hsame : c.reportMissing name = c := if_pos hname
    rw [reported_reportMissing hname'] at hc' ⊢
    rw [hsame]
    refine ⟨h.table, h.table', h.isFaithful, hc', fun name' => ?_, ?_⟩
    · rw [h.reported, List.mem_append, List.mem_singleton]
      constructor
      · rintro (hmem | hmem)
        · exact Or.inl hmem
        · exact Or.inr (Or.inl hmem)
      · rintro (hmem | hmem | rfl)
        · exact Or.inl hmem
        · exact Or.inr hmem
        · exact Or.inl hpast
    · rw [h.warnings, warnings_append, unreported_append, hwarning, unreported_of_reported hpast,
        List.append_nil]
  · have hnew : name ∉ past.reported := fun hmem => hname ((h.reported name).mpr (Or.inl hmem))
    have hnot : missingClass name ∉ past.reported.map missingClass := by
      intro hmem
      obtain ⟨name', hpast, hname'⟩ := List.mem_map.mp hmem
      rw [missingClass_injective hname'] at hpast
      exact hnew hpast
    rw [reported_reportMissing hname] at hc ⊢
    rw [reported_reportMissing hname'] at hc' ⊢
    refine ⟨h.table, h.table', hc, hc', fun name' => ?_, ?_⟩
    · rw [List.mem_append, List.mem_append, h.reported, or_assoc]
    · rw [warnings_append, warnings_append, unreported_append, hwarning,
        unreported_of_not_mem hnot, h.warnings, List.append_assoc]

/-- Both contexts give the same shape, and both go on as they did. -/
theorem resolve (h : Continues past c c') (name : Text) (hints : List Text) :
    (c.resolve name hints).1 = (c'.resolve name hints).1 ∧
      Continues past (c.resolve name hints).2 (c'.resolve name hints).2 := by
  rw [resolve_of_isFaithful h.isFaithful, resolve_of_isFaithful h.isFaithful', h.table, h.table']
  cases past.table.lookup name with
  | some shape => exact ⟨rfl, h.consult name⟩
  | none =>
      by_cases hhinted : (ConstructorShape.ofHints hints).isEmpty = true
      · simp only [if_pos hhinted]
        exact ⟨trivial, (h.consult name).reportMissing name⟩
      · simp only [if_neg hhinted]
        exact ⟨trivial, h.consult name⟩

end Continues

end Context

section Renderings

open Context

variable {past : Context} {b : Bundle}

namespace Rendering

theorem ofExcept_respects {α : Type} (x : Except RenderError α) :
    Respects (Continues past) (ofExcept x) :=
  fun _ _ h => ⟨rfl, h⟩

theorem log_respects {r : LogRecord} (hr : IsNeutral r) : Respects (Continues past) (log r) :=
  fun _ _ h => ⟨rfl, h.record hr⟩

theorem shapeOf_respects (className : Text) (hints : List Text) :
    Respects (Continues past) (shapeOf className hints) := by
  intro c c' h
  unfold shapeOf
  rw [outcome_modifyGet, outcome_modifyGet]
  obtain ⟨hshape, hcontext⟩ := h.resolve className hints
  exact ⟨congrArg Except.ok hshape, hcontext⟩

end Rendering

namespace Managed

theorem factoriesFor_respects (errorClass : Option Text) (causeAllowed : Bool) :
    Respects (Continues past) (factoriesFor b errorClass causeAllowed) := by
  cases errorClass with
  | none => exact .pure _
  | some errorClass => exact .bind (Rendering.shapeOf_respects _ _) fun _ => .pure _

theorem accessorOf_respects (source : Path) (r : Resource) :
    Respects (Continues past) (accessorOf b source r) :=
  .bind (Rendering.ofExcept_respects _) fun _ =>
    .bind (factoriesFor_respects _ _) fun _ => .pure _

theorem definitionOf_respects (described : Description) (definitions : List Definition) :
    Respects (Continues past) (definitionOf b described definitions) := by
  unfold definitionOf
  cases hfind : definitions.find? (·.key = keyOf b described) with
  | some definition =>
      simp only [hfind]
      exact .pure _
  | none =>
      simp only [hfind]
      exact .bind (factoriesFor_respects _ _) fun _ => .pure _

theorem functorBody_respects (source : Path) (rs : List Resource) (members : List FunctorMember)
    (definitions : List Definition) :
    Respects (Continues past) (functorBody b source rs members definitions) := by
  induction rs generalizing members definitions with
  | nil => exact .pure _
  | cons r rest ih =>
      refine .bind (Rendering.ofExcept_respects _) fun described => ?_
      exact .bind (definitionOf_respects described definitions) fun result => ih _ _

/-- The accessor class of a bundle is the same behind an earlier run. -/
theorem render_respects (style : AccessorStyle) (className : Text) (header : Header)
    (baseClass : Option Text) :
    Respects (Continues past) (render style b className header baseClass) := by
  refine .bind (.bind (Rendering.log_respects fun h => by cases h) fun _ =>
    .bind ?_ fun _ => .pure _) fun _ => .pure _
  cases style with
  | direct => exact .bind (.mapM (accessorOf_respects header.source) _) fun _ => .pure _
  | functor => exact functorBody_respects header.source b.resources [] []

end Managed

namespace Properties

/-- No warning about quotes reads like one about a missing class. -/
theorem isNeutral_unbalancedQuotes (name : Text) :
    IsNeutral (.of .warning "context" (unbalancedQuotes name)) := by
  intro _ name' h
  have hfirst : 'T' = 'C' := congrArg (List.headD · ' ') h
  exact absurd hfirst (by decide)

theorem entryOf_respects (source : Path) (r : Resource) :
    Respects (Continues past) (entryOf source r) := by
  refine .bind (Rendering.ofExcept_respects _) fun text => ?_
  by_cases hquotes : text.count '\'' % 2 = 1
  · rw [if_pos hquotes]
    exact .bind (Rendering.log_respects (isNeutral_unbalancedQuotes r.name)) fun _ => .pure _
  · rw [if_neg hquotes]
    exact .pure _

/-- The base properties file of a bundle is the same behind an earlier run. -/
theorem render_respects (className : Text) (header : Header) :
    Respects (Continues past) (render b className header) :=
  .bind (.mapM (entryOf_respects header.source) _) fun _ => .pure _

end Properties

namespace Native

/-- The native class of a bundle is the same behind an earlier run. -/
theorem classOf_respects (className : Text) (header : Header) (baseClass : Text) :
    Respects (Continues past) (classOf b className header baseClass) := by
  unfold classOf
  by_cases hqualified : className.contains '.' = true
  · rw [if_pos hqualified]
    exact .throw _
  · rw [if_neg hqualified]
    cases validate b header.source with
    | error e => exact .throw _
    | ok u =>
        exact .bind (Rendering.log_respects fun h => by cases h) fun _ =>
          .bind (Rendering.ofExcept_respects _) fun _ => .pure _

end Native

end Renderings

end MessageCatalog
