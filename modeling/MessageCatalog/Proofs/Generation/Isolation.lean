import MessageCatalog.Proofs.Generation.Refusal

/-!
# Failures of single includes

A run goes through its includes whatever becomes of each: an include with a failure is reported by
its name, and the next one is processed in the state that it leaves. Only a failure that does not
concern its include alone ends the run.

**Results.**
* `reached`: the includes with the states in which the run comes to them.
* `outcome_includes_of_local`: includes whose failures are all local are gone through to the last.
* `run_isolates_failures`: a run returns a report unless an include that it reaches has a failure
  that ends it, and the report has the failures of all includes in their order.
-/

namespace MessageCatalog
namespace Generation

open FileTree

/-- The task of an include that is reached in a state. -/
def taskAt (c : Configuration) (v : Include × RunState) : Task :=
  .of c v.1 (v.2.clock v.2.ticks).wall

/-- What becomes of an include that is reached in a state. -/
def visit (c : Configuration) (v : Include × RunState) : Except Failure Unit × RunState :=
  outcome (process (taskAt c v)) (ticked v.2)

/-- The failure of an include that is reached in a state, if it has one. -/
def failure? (c : Configuration) (v : Include × RunState) : Option Failure :=
  match (visit c v).1 with
  | .ok _ => none
  | .error failure => some failure

theorem failure?_eq_some {c : Configuration} {v : Include × RunState} {f : Failure} :
    failure? c v = some f ↔ (outcome (process (taskAt c v)) (ticked v.2)).1 = .error f := by
  unfold failure? visit
  cases (outcome (process (taskAt c v)) (ticked v.2)).1 with
  | ok u => simp
  | error f' => simp

/-- The failure as it is reported. -/
def reported? (c : Configuration) (v : Include × RunState) : Option IncludeFailure :=
  (failure? c v).map fun failure => ⟨v.1.name, failure.message⟩

/-- The state behind an include, whose failure has been logged if it has one. -/
def stateBehind (c : Configuration) (v : Include × RunState) : RunState :=
  match failure? c v with
  | none => (visit c v).2
  | some failure => failed v.1 failure (visit c v).2

/-- The includes with the states in which they are reached, one after the other. -/
def reached (c : Configuration) : List Include → RunState → List (Include × RunState)
  | [], _ => []
  | item :: items, s => (item, s) :: reached c items (stateBehind c (item, s))

/-- The state behind all includes. -/
def stateBehindAll (c : Configuration) : List Include → RunState → RunState
  | [], s => s
  | item :: items, s => stateBehindAll c items (stateBehind c (item, s))

theorem reached_fst (c : Configuration) (items : List Include) (s : RunState) :
    (reached c items s).map Prod.fst = items := by
  induction items generalizing s with
  | nil => rfl
  | cons item items ih =>
      unfold reached
      rw [List.map_cons, ih]

/-- What the run makes of an include, by the failure that the include has. -/
theorem outcome_processInclude_of_failure? (c : Configuration) (v : Include × RunState) :
    outcome (processInclude c v.1) v.2 =
      match failure? c v with
      | none => (.ok [], stateBehind c v)
      | some failure =>
          if failure.isLocal then (.ok [⟨v.1.name, failure.message⟩], stateBehind c v)
          else (.error failure, (visit c v).2) := by
  rw [outcome_processInclude]
  unfold stateBehind failure? visit taskAt
  rcases outcome (process (.of c v.1 (v.2.clock v.2.ticks).wall)) (ticked v.2) with ⟨e | ⟨⟩, t⟩
  · rfl
  · rfl

/-- Includes whose failures are all local are gone through to the last. -/
theorem outcome_includes_of_local {c : Configuration} {items : List Include} {s : RunState}
    (h : ∀ v ∈ reached c items s, ∀ f, failure? c v = some f → f.isLocal = true) :
    outcome (items.flatMapM (processInclude c)) s =
      (.ok ((reached c items s).filterMap (reported? c)), stateBehindAll c items s) := by
  induction items generalizing s with
  | nil => rfl
  | cons item items ih =>
      have hrest := ih fun v hv => h v (List.mem_cons_of_mem _ hv)
      have hitem := outcome_processInclude_of_failure? c (item, s)
      have hreported : reported? c (item, s) =
          (failure? c (item, s)).map fun failure => ⟨item.name, failure.message⟩ := rfl
      rw [List.flatMapM_cons]
      unfold reached stateBehindAll
      rw [List.filterMap_cons, hreported]
      cases hfailure : failure? c (item, s) with
      | none =>
          rw [hfailure] at hitem
          rw [outcome_bind_of_ok hitem, outcome_bind_of_ok hrest]
          rfl
      | some f =>
          simp only [hfailure, h (item, s) List.mem_cons_self f hfailure, if_true] at hitem
          rw [outcome_bind_of_ok hitem, outcome_bind_of_ok hrest]
          rfl

/-- An include whose failure is not local ends the run, unless an earlier one has done so. -/
theorem outcome_includes_of_not_local {c : Configuration} {items : List Include} {s : RunState}
    (h : ∃ v ∈ reached c items s, ∃ f, failure? c v = some f ∧ f.isLocal = false) :
    ∃ f t, outcome (items.flatMapM (processInclude c)) s = (.error f, t) := by
  induction items generalizing s with
  | nil =>
      obtain ⟨v, hv, -⟩ := h
      cases hv
  | cons item items ih =>
      have hitem := outcome_processInclude_of_failure? c (item, s)
      have hgoes : ∀ first, outcome (processInclude c item) s =
          (.ok first, stateBehind c (item, s)) →
          (∃ v ∈ reached c items (stateBehind c (item, s)),
            ∃ f, failure? c v = some f ∧ f.isLocal = false) →
          ∃ f t, outcome ((item :: items).flatMapM (processInclude c)) s = (.error f, t) := by
        intro first hfirst hlater
        obtain ⟨f, t, hrest⟩ := ih hlater
        refine ⟨f, t, ?_⟩
        rw [List.flatMapM_cons, outcome_bind_of_ok hfirst, outcome_bind_of_error hrest]
      obtain ⟨v, hv, f, hf, hends⟩ := h
      unfold reached at hv
      cases hfailure : failure? c (item, s) with
      | none =>
          rcases List.mem_cons.mp hv with rfl | hv
          · rw [hf] at hfailure
            cases hfailure
          · rw [hfailure] at hitem
            exact hgoes [] hitem ⟨v, hv, f, hf, hends⟩
      | some f' =>
          by_cases hlocal : f'.isLocal = true
          · rcases List.mem_cons.mp hv with rfl | hv
            · rw [hf, Option.some.injEq] at hfailure
              rw [hfailure, hlocal] at hends
              cases hends
            · simp only [hfailure, hlocal, if_true] at hitem
              exact hgoes _ hitem ⟨v, hv, f, hf, hends⟩
          · simp only [hfailure, hlocal] at hitem
            refine ⟨f', (visit c (item, s)).2, ?_⟩
            rw [List.flatMapM_cons, outcome_bind_of_error hitem]

/-- A run returns a report exactly if no include that it reaches has a failure that ends it, and
then the report has the failures of all includes, each under the name of its include and in their
order; the tree is the one that the last include leaves. An include fails for a number exactly if a
class of its bundle is rendered whose resources are refused for one, and any other failure that ends
the run is about an unknown encoding or a null character. -/
theorem run_isolates_failures (c : Configuration) (s : RunState) :
    (reached c c.includes s).map Prod.fst = c.includes ∧
      ((∃ r s', outcome (run c) s = (.ok r, s')) ↔
        ∀ v ∈ reached c c.includes s, ∀ f, failure? c v = some f → f.isLocal = true) ∧
      (∀ r s', outcome (run c) s = (.ok r, s') →
        r.failures = (reached c c.includes s).filterMap (reported? c) ∧
          s'.tree = (stateBehindAll c c.includes s).tree) ∧
      ∀ v ∈ reached c c.includes s,
        (failure? c v = some .numberTooLong ↔ (taskAt c v).StopsAtNumber (ticked v.2)) ∧
        ∀ f, failure? c v = some f → f.isLocal = true ∨ EndsRun (taskAt c v) (ticked v.2) f := by
  have hreport : ∀ r s', outcome (run c) s = (.ok r, s') →
      ∀ v ∈ reached c c.includes s, ∀ f, failure? c v = some f → f.isLocal = true := by
    intro r s' hrun v hv f hf
    cases hlocal : f.isLocal with
    | true => rfl
    | false =>
        obtain ⟨f', t, hends⟩ := outcome_includes_of_not_local ⟨v, hv, f, hf, hlocal⟩
        obtain ⟨failures, u, hincludes, -, -⟩ := run_eq_ok hrun
        rw [hends] at hincludes
        cases hincludes
  refine ⟨reached_fst c c.includes s, ⟨?_, ?_⟩, ?_, fun v _ => ⟨?_, fun f hf => ?_⟩⟩
  · rintro ⟨r, s', hrun⟩
    exact hreport r s' hrun
  · intro hlocal
    exact ⟨_, _, run_of_includes (outcome_includes_of_local hlocal)⟩
  · intro r s' hrun
    have hlocal := hreport r s' hrun
    obtain ⟨failures, u, hincludes, rfl, rfl⟩ := run_eq_ok hrun
    rw [outcome_includes_of_local hlocal] at hincludes
    cases hincludes
    exact ⟨rfl, rfl⟩
  · rw [failure?_eq_some]
    exact process_eq_numberTooLong rfl
  · exact endsRun_of_process rfl (outcome_of_fst (failure?_eq_some.mp hf))

end Generation
end MessageCatalog
