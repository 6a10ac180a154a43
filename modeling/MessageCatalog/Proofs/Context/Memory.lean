import MessageCatalog.Proofs.Context.History
import Mathlib.Data.List.Basic

/-!
# What a context remembers

A context keeps the answers of its table and the classes that it has reported. Whatever has been asked
and logged before, a question is answered as if there were no memory: the table is asked, and the hints
of the question itself count where the table has no answer. The memory shows only in what is not done
again. The table is consulted for a class when it is asked for first, and a class is reported when it
is asked for in vain for the first time.

**Results.**
* `plainShape`, `records`: the answers and the records of a history, without a memory.
* `Remembers.run`, `Remembers.behind`: what is remembered behind one call, and behind a history.
* `resolve_of_consulted`: the table is not consulted again for a class.
* `history_without_memory`: the answers, the consultations and the log of every history.
-/

namespace MessageCatalog
namespace Context

/-- The shape of a class: what the table says, else what the hints give. -/
def plainShape (table : ShapeTable) (name : Text) (hints : List Text) : Option ConstructorShape :=
  (table.lookup name).or (hinted hints)

namespace Call

/-- The call that logs a warning. -/
def warn (message : Text) : Call :=
  .log (.of .warning "context" message)

/-- What the context answers to a call. -/
def answer? (c : Context) : Call → Option (Option ConstructorShape)
  | .resolve name hints => some (c.resolve name hints).1
  | .log _ => none

/-- What a call is answered without a memory. -/
def plainAnswer? (table : ShapeTable) : Call → Option (Option ConstructorShape)
  | .resolve name hints => some (plainShape table name hints)
  | .log _ => none

/-- The class that a call asks for. -/
def asked? : Call → Option Text
  | .resolve name _ => some name
  | .log _ => none

/-- The class that a call asks for in vain. -/
def missed? (table : ShapeTable) : Call → Option Text
  | .resolve name hints => if plainShape table name hints = none then some name else none
  | .log _ => none

end Call

/-- The classes that a history asks for in vain, one for each such question. -/
def missed (table : ShapeTable) (calls : List Call) : List Text :=
  calls.filterMap (Call.missed? table)

/-- The records of a call behind earlier ones: what it logs, and a report on a class that is asked for
in vain for the first time. -/
def Call.records (table : ShapeTable) (earlier : List Call) : Call → List LogRecord
  | .resolve name hints =>
      if plainShape table name hints = none ∧ name ∉ missed table earlier then
        [.of .warning "context" (missingClass name)]
      else []
  | .log r => [r]

/-- The answers that the context gives to the calls of a history, in order. -/
def answers : Context → List Call → List (Option ConstructorShape)
  | _, [] => []
  | c, call :: rest => (call.answer? c).toList ++ (call.run c).answers rest

/-- The classes that a history asks for, one for each question. -/
def asked (calls : List Call) : List Text :=
  calls.filterMap Call.asked?

/-- The records of a history behind earlier calls, in order. -/
def records (table : ShapeTable) : (earlier : List Call) → List Call → List LogRecord
  | _, [] => []
  | earlier, call :: rest =>
      call.records table earlier ++ records table (earlier ++ [call]) rest

/-- The context remembers a history: the answers of the table to the classes that were asked for, each
once and in the order of the first questions, and the classes that were asked for in vain. -/
structure Remembers (table : ShapeTable) (calls : List Call) (c : Context) : Prop where
  sameTable : c.table = table
  consulted : c.consulted = (asked calls).eraseDups.map fun name => (name, table.lookup name)
  reported : ∀ name, name ∈ c.reported ↔ name ∈ missed table calls

variable {table : ShapeTable} {calls later : List Call} {c : Context} {name : Text}
  {hints : List Text}

section Questions

theorem lookup_consulted (h : Remembers table calls c) (name : Text) :
    c.consulted.lookup name = if name ∈ asked calls then some (table.lookup name) else none := by
  rw [h.consulted]
  by_cases hname : name ∈ asked calls
  · rw [if_pos hname, List.lookup_graph table.lookup (List.mem_eraseDups.mpr hname)]
  · rw [if_neg hname, List.lookup_eq_none_iff]
    intro entry hentry
    obtain ⟨other, hother, rfl⟩ := List.mem_map.mp hentry
    exact bne_iff_ne.mpr fun hsame => hname (hsame ▸ List.mem_eraseDups.mp hother)

/-- The answer is that of the table, whether it is remembered or not. -/
theorem Remembers.shapeIn (h : Remembers table calls c) (name : Text) (hints : List Text) :
    c.shapeIn name hints = plainShape table name hints := by
  rw [Context.shapeIn, plainShape, answer_eq, lookup_consulted h, h.sameTable]
  by_cases hname : name ∈ asked calls
  · rw [if_pos hname]
    rfl
  · rw [if_neg hname]
    rfl

theorem eraseDups_append_singleton (names : List Text) (name : Text) :
    (names ++ [name]).eraseDups =
      if name ∈ names then names.eraseDups else names.eraseDups ++ [name] := by
  rw [List.eraseDups_append]
  by_cases hname : name ∈ names
  · simp [List.removeAll, hname]
  · simp [List.removeAll, hname, List.eraseDups_cons]

/-- A table is consulted for a class that has not been asked for, and its answer is kept. -/
theorem Remembers.consult (h : Remembers table calls c) (name : Text) (hints : List Text) :
    (c.consult name).2 =
      { c with
        consulted := (asked (calls ++ [.resolve name hints])).eraseDups.map
          fun name => (name, table.lookup name) } := by
  have hasked : asked (calls ++ [.resolve name hints]) = asked calls ++ [name] :=
    List.filterMap_append ..
  rw [hasked, eraseDups_append_singleton]
  unfold Context.consult
  rw [lookup_consulted h]
  by_cases hname : name ∈ asked calls
  · rw [if_pos hname, if_pos hname, ← h.consulted]
  · rw [if_neg hname, if_neg hname, List.map_append, ← h.consulted, h.sameTable]
    rfl

end Questions

section Histories

theorem remembers_start (table : ShapeTable) : Remembers table [] (start table) where
  sameTable := rfl
  consulted := rfl
  reported _ := Iff.rfl

theorem mem_missed_append {other : Text} : other ∈ missed table (calls ++ [.resolve name hints]) ↔
    other ∈ missed table calls ∨ plainShape table name hints = none ∧ other = name := by
  rw [missed, List.filterMap_append, List.mem_append]
  refine or_congr_right ?_
  by_cases hmissed : plainShape table name hints = none
  · simp [Call.missed?, hmissed]
  · simp [Call.missed?, hmissed]

/-- Behind a question the class is remembered as asked for, and as reported if it was asked for in
vain. -/
theorem Remembers.resolve (h : Remembers table calls c) (name : Text) (hints : List Text) :
    Remembers table (calls ++ [.resolve name hints]) (c.resolve name hints).2 ∧
      (c.resolve name hints).2.log =
        c.log ++ (Call.resolve name hints).records table calls := by
  rw [resolve_eq, h.shapeIn, h.consult name hints, Call.records]
  simp only [← h.reported]
  by_cases hmissed : plainShape table name hints = none
  · rw [if_pos hmissed, reportMissing]
    by_cases hreported : name ∈ c.reported
    · rw [if_pos hreported, if_neg fun hnew => hnew.2 hreported, List.append_nil]
      refine ⟨⟨h.sameTable, rfl, fun other => ?_⟩, rfl⟩
      rw [mem_missed_append, ← h.reported]
      exact ⟨.inl, fun hother => hother.elim id fun hsame => hsame.2 ▸ hreported⟩
    · rw [if_neg hreported, if_pos ⟨hmissed, hreported⟩]
      refine ⟨⟨h.sameTable, rfl, fun other => ?_⟩, rfl⟩
      rw [mem_missed_append, ← h.reported, and_iff_right hmissed, ← List.mem_singleton]
      exact List.mem_append
  · rw [if_neg hmissed, if_neg fun hnew => hmissed hnew.1, List.append_nil]
    refine ⟨⟨h.sameTable, rfl, fun other => ?_⟩, rfl⟩
    rw [mem_missed_append, ← h.reported]
    exact (or_iff_left fun hother => hmissed hother.1).symm

/-- What one call is answered, what is remembered behind it, and what it adds to the log. -/
theorem Remembers.run (h : Remembers table calls c) (call : Call) :
    call.answer? c = call.plainAnswer? table ∧ Remembers table (calls ++ [call]) (call.run c) ∧
      (call.run c).log = c.log ++ call.records table calls := by
  cases call with
  | resolve name hints =>
      refine ⟨?_, h.resolve name hints⟩
      rw [Call.answer?, resolve_fst, h.shapeIn]
      rfl
  | log r =>
      refine ⟨rfl, ⟨h.sameTable, ?_, fun name => ?_⟩, rfl⟩
      · have hasked : asked (calls ++ [.log r]) = asked calls := by
          simp [asked, Call.asked?]
        rw [hasked]
        exact h.consulted
      · have hmissed : missed table (calls ++ [.log r]) = missed table calls := by
          simp [missed, Call.missed?]
        rw [hmissed]
        exact h.reported name

/-- The same for a history, by induction on its calls. -/
theorem Remembers.behind (h : Remembers table calls c) (later : List Call) :
    c.answers later = later.filterMap (Call.plainAnswer? table) ∧
      Remembers table (calls ++ later) (c.behind later) ∧
      (c.behind later).log = c.log ++ records table calls later := by
  induction later generalizing calls c with
  | nil =>
      rw [List.append_nil]
      exact ⟨rfl, h, (List.append_nil _).symm⟩
  | cons call rest ih =>
      obtain ⟨hanswer, hrun, hlog⟩ := h.run call
      obtain ⟨hanswers, hbehind, hlogs⟩ := ih hrun
      rw [List.append_assoc, List.singleton_append] at hbehind
      refine ⟨?_, hbehind, ?_⟩
      · rw [answers, hanswer, hanswers, List.filterMap_cons]
        cases call.plainAnswer? table <;> rfl
      · rw [records, ← List.append_assoc, ← hlog]
        exact hlogs

end Histories

section Repetition

/-- For a class that has been asked for, no table is consulted. -/
theorem resolve_of_consulted {answer : Option ConstructorShape}
    (h : c.consulted.lookup name = some answer) (hints : List Text) (table' : ShapeTable) :
    { c with table := table' }.resolve name hints =
      ((c.resolve name hints).1, { (c.resolve name hints).2 with table := table' }) := by
  have hconsult : c.consult name = (answer, c) := by rw [Context.consult, h]
  have hconsult' : { c with table := table' }.consult name = (answer, { c with table := table' }) := by
    rw [Context.consult, h]
  have hshape : { c with table := table' }.shapeIn name hints = c.shapeIn name hints := by
    rw [Context.shapeIn, Context.shapeIn, Context.answer, Context.answer, hconsult, hconsult']
  have hreport : { c with table := table' }.reportMissing name =
      { c.reportMissing name with table := table' } := by
    by_cases hname : name ∈ c.reported
    · rw [reportMissing, reportMissing, if_pos hname, if_pos hname]
    · rw [reportMissing, reportMissing, if_neg hname, if_neg hname]
      rfl
  rw [resolve_eq, resolve_eq, hshape, hconsult, hconsult']
  by_cases hmissed : c.shapeIn name hints = none
  · simp only [if_pos hmissed, hreport]
  · simp only [if_neg hmissed]

/-- Classes that have been asked for are answered alike, whatever the table says by then. -/
theorem Remembers.answers_of_subset (h : Remembers table calls c) (table' : ShapeTable)
    (hlater : asked later ⊆ asked calls) :
    { c with table := table' }.answers later = c.answers later := by
  induction later generalizing calls c with
  | nil => rfl
  | cons call rest ih =>
      have hrun := (h.run call).2.1
      cases call with
      | resolve name hints =>
          have hlookup := lookup_consulted h name
          rw [if_pos (hlater List.mem_cons_self)] at hlookup
          have hrest : asked rest ⊆ asked (calls ++ [.resolve name hints]) := fun other hother => by
            rw [asked, List.filterMap_append, List.mem_append]
            exact .inl (hlater (List.mem_cons_of_mem _ hother))
          have hsame := resolve_of_consulted hlookup hints table'
          rw [answers, answers, Call.answer?, Call.answer?, Call.run, Call.run, hsame]
          exact congrArg _ (ih hrun hrest)
      | log r =>
          have hrest : asked rest ⊆ asked (calls ++ [.log r]) := fun other hother => by
            rw [asked, List.filterMap_append, List.mem_append]
            exact .inl (hlater hother)
          exact ih hrun hrest

/-- Every question of a history is answered as if it were the only one: by the table, else by its own
hints. The table is consulted exactly once for each class that is asked for, in the order of the first
questions, and not again. The log has what is logged, warnings among it, and one report on each class
that is asked for in vain, at the first such question. -/
theorem history_without_memory (table : ShapeTable) (calls : List Call) :
    (start table).answers calls = calls.filterMap (Call.plainAnswer? table) ∧
      ((start table).behind calls).consulted =
        (asked calls).eraseDups.map (fun name => (name, table.lookup name)) ∧
      (∀ table' later, asked later ⊆ asked calls →
        { (start table).behind calls with table := table' }.answers later =
          ((start table).behind calls).answers later) ∧
      ((start table).behind calls).log = records table [] calls := by
  obtain ⟨hanswers, hremembers, hlog⟩ := (remembers_start table).behind calls
  exact ⟨hanswers, hremembers.consulted, fun table' _ => hremembers.answers_of_subset table', hlog⟩

/-- Questions for a class that only the hints of the first one know, with a warning in between. -/
def lostCalls : List Call :=
  [.resolve "acme.Lost" ["( String message )"], .warn "a", .resolve "acme.Lost" [],
    .resolve "Error" [], .resolve "acme.Lost" ["()"]]

/-- Hints do not outlive their question, and the report comes behind the warning, where the class is
asked for in vain first. An empty table makes no difference any more. -/
theorem lostCalls_without_memory :
    asked [.resolve "Error" ["()"]] ⊆ asked lostCalls ∧
      (start .standard).answers lostCalls =
        [some ShapeTable.messageOnly, none, some ShapeTable.withCause, none] ∧
      ((start .standard).behind lostCalls).consulted =
        ([("acme.Lost", none), ("Error", some ShapeTable.withCause)] :
          List (Text × Option ConstructorShape)) ∧
      { (start .standard).behind lostCalls with table := ⟨[]⟩ }.answers
          [.resolve "Error" ["()"]] =
        ((start .standard).behind lostCalls).answers [.resolve "Error" ["()"]] ∧
      ((start .standard).behind lostCalls).log =
        [.of .warning "context" "a", .of .warning "context" (missingClass "acme.Lost")] := by
  have hlater : asked [.resolve "Error" ["()"]] ⊆ asked lostCalls := by decide
  obtain ⟨hanswers, hconsulted, hagain, hlog⟩ := history_without_memory .standard lostCalls
  exact ⟨hlater, hanswers, hconsulted, hagain ⟨[]⟩ _ hlater, hlog⟩

end Repetition

end Context
end MessageCatalog
