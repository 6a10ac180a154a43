import MessageCatalog.Generation.Run
import MessageCatalog.Proofs.FileTree.Writing

/-!
# The actions of a run

Questions, log records, renderings and the clock leave the files of a run and its account alone. An
output is left alone or written; either is one event of the account, and a write that succeeds
leaves the new file at the end of the path.

**Results.**
* `outcome_write`: what a write does, whether it succeeds or not.
* `write_eq_ok`: a write that succeeds is one event, and the tree has grown by it.
* `writeIfStale_eq_ok`: a current or read-only output is left alone, any other is written.
* `outcome_processInclude`: what becomes of an include, by what becomes of its processing.
* `outcome_run`: what becomes of a run, by what becomes of its includes.
-/

namespace MessageCatalog

open FileTree

namespace Action

section Outcomes

variable {α : Type}

@[simp] theorem outcome_ofExcept (e : Except Failure α) (s : RunState) :
    outcome (ofExcept e) s = (e, s) := rfl

@[simp] theorem outcome_ask (question : FileTree → Except FileError α) (s : RunState) :
    outcome (ask question) s = ((question s.tree).mapError .file, s) := rfl

@[simp] theorem outcome_log (level : LogLevel) (message : Text) (s : RunState) :
    outcome (log level message) s =
      (.ok ⟨⟩, { s with context := s.context.record (.of level "orchestrator" message) }) := rfl

@[simp] theorem outcome_readClock (s : RunState) :
    outcome readClock s = (.ok (s.clock s.ticks), { s with ticks := s.ticks + 1 }) := rfl

@[simp] theorem outcome_render (rendering : Rendering Text) (s : RunState) :
    outcome (render rendering) s =
      ((outcome rendering s.context).1.mapError .ofRendering,
        { s with context := (outcome rendering s.context).2 }) := rfl

@[simp] theorem outcome_change (action : FileAction Unit) (s : RunState) :
    outcome (change action) s =
      ((outcome action s.tree).1.mapError .file,
        { s with tree := (outcome action s.tree).2 }) := rfl

@[simp] theorem outcome_skip (output : Path) (reason : Text) (s : RunState) :
    outcome (skip output reason) s =
      (.ok ⟨⟩, { s with
        context := s.context.record (.of .info "orchestrator" reason)
        events := s.events ++ [.skipped output reason] }) := rfl

/-- A write reads the clock once. The event is recorded only if the write succeeds; what it did to
the tree stays in any case. -/
theorem outcome_write (output : Path) (content : Bytes) (s : RunState) :
    outcome (write output content) s =
      let result := outcome (FileAction.writeFile output content (s.clock s.ticks).disk) s.tree
      let state : RunState :=
        { s with
          tree := result.2
          context := s.context.record (.of .info "orchestrator" ("Generating " ++ output.text))
          ticks := s.ticks + 1 }
      match result.1 with
      | .ok _ =>
          (.ok ⟨⟩, { state with events := s.events ++ [.written output (s.clock s.ticks).disk] })
      | .error e => (.error (.file e), state) := by
  unfold write
  rw [outcome_bind_of_ok (outcome_log _ _ _), outcome_bind_of_ok (outcome_readClock _),
    outcome_bind, outcome_change]
  rcases outcome (FileAction.writeFile output content (s.clock s.ticks).disk) s.tree with
    ⟨e | ⟨⟩, tree⟩
  · rfl
  · rfl

end Outcomes

section Sequences

variable {α β : Type} {s s' : RunState} {b : β}

/-- A sequence that begins with a question. -/
theorem ask_bind_eq_ok {question : FileTree → Except FileError α} {f : α → Action β} :
    outcome (ask question >>= f) s = (.ok b, s') ↔
      ∃ a, question s.tree = .ok a ∧ outcome (f a) s = (.ok b, s') := by
  rw [outcome_bind, outcome_ask]
  cases question s.tree with
  | ok a => simp [Except.mapError]
  | error e => simp [Except.mapError]

/-- A question that is refused leaves the state as it is, and one that is answered leads on. -/
theorem outcome_ask_bind (question : FileTree → Except FileError α) (f : α → Action β)
    (s : RunState) :
    (∃ e, outcome (ask question >>= f) s = (.error (.file e), s)) ∨
      ∃ a, question s.tree = .ok a ∧ outcome (ask question >>= f) s = outcome (f a) s := by
  rw [outcome_bind, outcome_ask]
  cases question s.tree with
  | error e => exact .inl ⟨e, rfl⟩
  | ok a => exact .inr ⟨a, rfl, rfl⟩

/-- A sequence that begins with a result that does not depend on the state. -/
theorem ofExcept_bind_eq_ok {e : Except Failure α} {f : α → Action β} :
    outcome (ofExcept e >>= f) s = (.ok b, s') ↔
      ∃ a, e = .ok a ∧ outcome (f a) s = (.ok b, s') := by
  rw [outcome_bind, outcome_ofExcept]
  cases e with
  | ok a => simp
  | error e => simp

end Sequences

end Action

namespace RunState

/-- The files and the account are the same. -/
structure SameFiles (s s' : RunState) : Prop where
  tree : s'.tree = s.tree
  events : s'.events = s.events

namespace SameFiles

theorem refl (s : RunState) : SameFiles s s :=
  ⟨rfl, rfl⟩

theorem trans {s t u : RunState} (h : SameFiles s t) (h' : SameFiles t u) : SameFiles s u :=
  ⟨h'.tree.trans h.tree, h'.events.trans h.events⟩

end SameFiles

/-- An output has been left alone. -/
structure Skips (output : Path) (s s' : RunState) : Prop where
  tree : s'.tree = s.tree
  events : ∃ reason, s'.events = s.events ++ [.skipped output reason]

/-- An output has been written at a time. -/
structure Writes (output : Path) (time : Time) (s s' : RunState) : Prop where
  events : s'.events = s.events ++ [.written output time]
  grows : Grows (only output time) s.tree s'.tree
  file : ∃ content, s'.tree.lookup output = .ok (.file content time true)

end RunState

namespace Action

open RunState

theorem ask_sameFiles {α : Type} (question : FileTree → Except FileError α) :
    Leads SameFiles (ask question) :=
  fun s => .refl s

theorem render_sameFiles (rendering : Rendering Text) : Leads SameFiles (render rendering) :=
  fun _ => ⟨rfl, rfl⟩

theorem skip_eq_ok {output : Path} {reason : Text} {s s' : RunState}
    (h : outcome (skip output reason) s = (.ok ⟨⟩, s')) : Skips output s s' := by
  rw [outcome_skip] at h
  cases h
  exact ⟨rfl, reason, rfl⟩

theorem write_eq_ok {output : Path} {content : Bytes} {s s' : RunState}
    (h : outcome (write output content) s = (.ok ⟨⟩, s')) : ∃ time, Writes output time s s' := by
  rw [outcome_write] at h
  rcases hfile : outcome (FileAction.writeFile output content (s.clock s.ticks).disk) s.tree with
    ⟨e | ⟨⟩, tree⟩
  · rw [hfile] at h
    cases h
  · rw [hfile] at h
    cases h
    obtain ⟨hgrows, hlookup⟩ := FileAction.writeFile_eq_ok hfile
    exact ⟨_, rfl, hgrows, content, hlookup⟩

end Action

namespace Generation

open RunState

/-- An output is left alone if it is current or read-only, and written otherwise. -/
theorem writeIfStale_eq_ok {output : Path} {decision : Decision} {content : Action Bytes}
    {s s' : RunState} (hcontent : Leads SameFiles content)
    (h : outcome (writeIfStale output decision content) s = (.ok ⟨⟩, s')) :
    (decision.isCurrent = true ∨ s.tree.isReadOnly output = .ok true) ∧ Skips output s s' ∨
      decision.isCurrent = false ∧ s.tree.isReadOnly output = .ok false ∧
        ∃ time, Writes output time s s' := by
  unfold writeIfStale at h
  cases hcurrent : decision.isCurrent with
  | true =>
      rw [if_pos hcurrent] at h
      exact Or.inl ⟨Or.inl rfl, Action.skip_eq_ok h⟩
  | false =>
      rw [if_neg (by simp [hcurrent])] at h
      obtain ⟨readOnly, hreadOnly, h⟩ := Action.ask_bind_eq_ok.mp h
      cases readOnly with
      | true =>
          rw [if_pos rfl] at h
          exact Or.inl ⟨Or.inr hreadOnly, Action.skip_eq_ok h⟩
      | false =>
          rw [if_neg Bool.false_ne_true] at h
          obtain ⟨bytes, t, hsame, h⟩ := hcontent.of_bind_eq_ok h
          obtain ⟨time, hwrites⟩ := Action.write_eq_ok h
          refine Or.inr ⟨rfl, hreadOnly, time, ?_, ?_, hwrites.file⟩
          · rw [hwrites.events, hsame.events]
          · rw [← hsame.tree]
            exact hwrites.grows

section Includes

theorem process_of_bundle {k : Task} (h : k.item.name.endsWith Task.bundleSuffix = true) :
    process k = processBundle k :=
  if_pos h

/-- The state in which an include is processed: the clock has been read once more. -/
def ticked (s : RunState) : RunState :=
  { s with ticks := s.ticks + 1 }

/-- The state behind an include with a failure: the failure has been logged. -/
def failed (item : Include) (failure : Failure) (s : RunState) : RunState :=
  { s with
    context := s.context.record
      (.of .error "orchestrator" ("Failed to generate " ++ item.name ++ ": " ++ failure.message)) }

/-- What becomes of an include: nothing is reported, or one failure is, or the run ends. -/
theorem outcome_processInclude (c : Configuration) (item : Include) (s : RunState) :
    outcome (processInclude c item) s =
      match outcome (process (.of c item (s.clock s.ticks).wall)) (ticked s) with
      | (.ok _, t) => (.ok [], t)
      | (.error failure, t) =>
          if failure.isLocal then (.ok [⟨item.name, failure.message⟩], failed item failure t)
          else (.error failure, t) := by
  have hclock : outcome Action.readClock s = (.ok (s.clock s.ticks), ticked s) := rfl
  rw [processInclude_eq]
  rw [outcome_bind_of_ok hclock, outcome_tryCatch]
  rcases hprocess : outcome (process (.of c item (s.clock s.ticks).wall)) (ticked s) with
    ⟨failure | ⟨⟩, t⟩
  · rw [outcome_bind_of_error hprocess]
    by_cases hlocal : failure.isLocal = true
    · simp only [if_pos hlocal]
      rfl
    · simp only [if_neg hlocal]
      rfl
  · rw [outcome_bind_of_ok hprocess]
    rfl

/-- An include without a failure has been processed to its end. -/
theorem processInclude_eq_nil {c : Configuration} {item : Include} {s s' : RunState}
    (h : outcome (processInclude c item) s = (.ok [], s')) :
    outcome (process (.of c item (s.clock s.ticks).wall)) (ticked s) = (.ok ⟨⟩, s') := by
  rw [outcome_processInclude] at h
  rcases hprocess : outcome (process (.of c item (s.clock s.ticks).wall)) (ticked s) with
    ⟨failure | ⟨⟩, t⟩
  · rw [hprocess] at h
    by_cases hlocal : failure.isLocal = true
    · simp [hlocal] at h
    · simp [hlocal] at h
  · rw [hprocess] at h
    cases h
    rfl

end Includes

section Runs

/-- The report of a run that ends in a state. -/
def reportOf (failures : List IncludeFailure) (s : RunState) : Report :=
  ⟨s.written, s.skipped, LogRecord.warnings s.context.log, failures⟩

/-- The state behind a run: its summary has been logged. -/
def summarized (failures : List IncludeFailure) (s : RunState) : RunState :=
  { s with
    context := s.context.record (.of .info "orchestrator"
      ("Generated " ++ Text.ofNat s.written.length ++ " file(s), "
        ++ Text.ofNat s.skipped.length ++ " up to date, "
        ++ Text.ofNat failures.length ++ " failure(s)")) }

/-- A run reports what the includes did, unless one of them ends it. -/
theorem outcome_run (c : Configuration) (s : RunState) :
    outcome (run c) s =
      match outcome (c.includes.flatMapM (processInclude c)) s with
      | (.ok failures, t) => (.ok (reportOf failures t), summarized failures t)
      | (.error failure, t) => (.error failure, t) := by
  rw [run_eq]
  rcases hincludes : outcome (c.includes.flatMapM (processInclude c)) s with ⟨failure | failures, t⟩
  · rw [outcome_bind_of_error hincludes]
  · rw [outcome_bind_of_ok hincludes]
    rfl

/-- A run that goes through all includes returns a report. -/
theorem run_of_includes {c : Configuration} {s t : RunState} {failures : List IncludeFailure}
    (h : outcome (c.includes.flatMapM (processInclude c)) s = (.ok failures, t)) :
    outcome (run c) s = (.ok (reportOf failures t), summarized failures t) := by
  rw [outcome_run, h]

/-- A run that returns a report has gone through all includes. -/
theorem run_eq_ok {c : Configuration} {s s' : RunState} {r : Report}
    (h : outcome (run c) s = (.ok r, s')) :
    ∃ failures t, outcome (c.includes.flatMapM (processInclude c)) s = (.ok failures, t) ∧
      r = reportOf failures t ∧ s' = summarized failures t := by
  rw [outcome_run] at h
  rcases hincludes : outcome (c.includes.flatMapM (processInclude c)) s with ⟨failure | failures, t⟩
  · rw [hincludes] at h
    cases h
  · rw [hincludes] at h
    cases h
    exact ⟨failures, t, rfl, rfl, rfl⟩

end Runs

section Sample

/-- A configuration that reads from the directory `s` and writes to the directories `d` and `r`. -/
def sampleConfiguration (locales : Option Text) (includes : List Include) : Configuration where
  source := Path.ofText "s"
  destination := Path.ofText "d"
  resources := Path.ofText "r"
  mode := .managed
  locales
  style := .direct
  force := false
  commentStyle := .stable
  includes
  shapes := []
  table := ⟨[]⟩

/-- A tree with the three directories and further entries. -/
def sampleTree (entries : List (Place × FileTree.Entry)) : FileTree where
  entries :=
    (["s".toList], .directory 0) :: (["d".toList], .directory 0) :: (["r".toList], .directory 0) ::
      entries
  workingDirectory := []

/-- A document without resources. -/
def sampleDocument : Bytes := Text.utf8 "<resourceBundle locale=\"en\"/>"

/-- The locale of the document. -/
def english : Locale := ⟨"en", [], [], by decide, by decide, by decide⟩

/-- A locale for which the document has no texts. -/
def french : Locale := ⟨"fr", [], [], by decide, by decide, by decide⟩

/-- The bundle of the document. -/
def sampleBundle : Bundle := ⟨some english, [], ⟨none, none, none, none, none, none, []⟩⟩

end Sample

end Generation
end MessageCatalog
