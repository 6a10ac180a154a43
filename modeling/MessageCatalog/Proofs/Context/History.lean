import MessageCatalog.Proofs.Context.Agreement

/-!
# Histories of a context

Between the start of a run and a rendering a context is asked for classes, and records are logged in
it. Whatever the order, its answers are those of the table, and a class is reported once or not at
all; only records that are logged by others can read like such a report.

**Results.**
* `Call`, `behind`: histories, and the context behind one.
* `Accounts.run`, `accounts_behind`: answers, reports and warnings behind one call, and behind a
  history.
* `knows_behind`: a class that has been asked for has a shape or has been reported.
-/

namespace MessageCatalog
namespace Context

open LogRecord

/-- What is done with a context. -/
inductive Call where
  | resolve (name : Text) (hints : List Text)
  | log (r : LogRecord)
deriving DecidableEq, Repr

/-- The context behind a call. -/
def Call.run (c : Context) : Call → Context
  | .resolve name hints => (c.resolve name hints).2
  | .log r => c.record r

/-- The context behind a history of calls. -/
def behind (c : Context) (calls : List Call) : Context :=
  calls.foldl Call.run c

/-- The warnings that a call logs on its own account. -/
def Call.ownWarnings : Call → List Text
  | .resolve _ _ => []
  | .log r => warnings [r]

/-- The answers are those of the table, classes without an answer are reported, each once, and all
other warnings that read like a report are those of the calls themselves. -/
structure Accounts (table : ShapeTable) (calls : List Call) (c : Context) : Prop where
  answers : ∀ name, c.answer name = table.lookup name
  unknown : ∀ name ∈ c.reported, table.lookup name = none
  warnings : ∀ name, (warnings c.log).count (missingClass name) =
    (calls.flatMap Call.ownWarnings).count (missingClass name) +
      if name ∈ c.reported then 1 else 0

variable {table : ShapeTable} {calls : List Call} {c d : Context} {name : Text}
  {hints : List Text}

theorem accounts_start (table : ShapeTable) : Accounts table [] (start table) where
  answers _ := rfl
  unknown _ h := by cases h
  warnings _ := rfl

theorem Accounts.of_agrees (h : Accounts table calls c) (hagrees : Agrees d c) :
    Accounts table calls d where
  answers name := by rw [hagrees.answers, h.answers]
  unknown name hname := h.unknown name (hagrees.reported ▸ hname)
  warnings name := by rw [hagrees.warnings, hagrees.reported, h.warnings]

/-- The report on a class adds one warning about it, unless there has been one. -/
theorem Accounts.reportMissing (h : Accounts table calls c) (hnone : table.lookup name = none) :
    Accounts table calls (c.reportMissing name) := by
  by_cases hname : name ∈ c.reported
  · rwa [show c.reportMissing name = c from if_pos hname]
  rw [reported_reportMissing hname]
  constructor
  · intro other
    rw [← h.answers other, answer_eq, answer_eq]
  · intro other hother
    rcases List.mem_append.mp hother with hother | hother
    · exact h.unknown other hother
    · rwa [List.mem_singleton.mp hother]
  · intro other
    have hreport : LogRecord.warnings [.of .warning "context" (missingClass name)] =
        [missingClass name] := rfl
    rw [warnings_append, hreport, List.count_append, h.warnings]
    by_cases hother : other = name
    · subst hother
      simp [hname]
    · have hne : missingClass name ≠ missingClass other :=
        fun heq => hother (missingClass_injective heq).symm
      simp [hother, hne]

/-- One call adds to the accounts what it logs itself. -/
theorem Accounts.run (h : Accounts table calls c) (call : Call) :
    Accounts table (calls ++ [call]) (call.run c) := by
  cases call with
  | resolve name hints =>
      have hsame : Accounts table (calls ++ [.resolve name hints]) c :=
        ⟨h.answers, h.unknown, fun other => by simp [h.warnings, Call.ownWarnings]⟩
      -- an answer is kept for later without changing any; only a missing class is reported
      refine Accounts.of_agrees ?_ (agrees_resolve c name hints)
      by_cases hshape : c.shapeIn name hints = none
      · rw [if_pos hshape]
        refine hsame.reportMissing ?_
        rw [← h.answers]
        exact (Option.or_eq_none_iff.mp hshape).1
      · rwa [if_neg hshape]
  | log r =>
      constructor
      · intro name
        rw [← h.answers, answer_eq, answer_eq]
        rfl
      · exact h.unknown
      · intro name
        have hlog : (c.record r).log = c.log ++ [r] := rfl
        have hreported : (c.record r).reported = c.reported := rfl
        have hown : Call.ownWarnings (.log r) = LogRecord.warnings [r] := rfl
        rw [Call.run, hlog, hreported, warnings_append, List.count_append, h.warnings,
          List.flatMap_append, List.flatMap_singleton, hown, List.count_append]
        omega

/-- Behind every history the accounts are right. -/
theorem Accounts.behind (h : Accounts table calls c) (calls' : List Call) :
    Accounts table (calls ++ calls') (c.behind calls') := by
  induction calls' generalizing calls c with
  | nil => rwa [List.append_nil]
  | cons call rest ih =>
      have hrest := ih (h.run call)
      rwa [List.append_assoc] at hrest

theorem accounts_behind (table : ShapeTable) (calls : List Call) :
    Accounts table calls ((start table).behind calls) :=
  (accounts_start table).behind calls

theorem Knows.run (h : c.Knows name hints) (call : Call) : (call.run c).Knows name hints := by
  cases call with
  | resolve other hints' => exact h.resolve other hints'
  | log r =>
      intro hnone
      rw [shapeIn, answer_eq] at hnone
      refine h ?_
      rw [shapeIn, answer_eq]
      exact hnone

theorem Knows.behind (h : c.Knows name hints) (calls : List Call) :
    (c.behind calls).Knows name hints := by
  induction calls generalizing c with
  | nil => exact h
  | cons call rest ih => exact ih (h.run call)

/-- A class that has been asked for has a shape, or it has been reported. -/
theorem knows_behind (h : .resolve name hints ∈ calls) : (c.behind calls).Knows name hints := by
  induction calls generalizing c with
  | nil => cases h
  | cons call rest ih =>
      rcases List.mem_cons.mp h with rfl | h
      · exact (knows_resolve c name hints).behind rest
      · exact ih h

end Context
end MessageCatalog
