import MessageCatalog.Generation.Staleness
import MessageCatalog.Proofs.FileTree.Lookup

/-!
# What a decision says

A decision on an output compares the time of the output with that of its source. This module states
the comparison without decisions: an output is current when something at least as new as the source
stands there, and outdated when nothing or something older stands there.

**Results.**
* `ofOutput_eq_ok`, `ofLocaleFile_eq_ok`, `ofOutputs_eq_ok`: a decision that is reached says that
  the output is current, is maintained by hand, or is outdated or forced.
* `ofOutput_of_timeOf`: what is decided on an output that exists.
-/

namespace MessageCatalog

namespace FileTree

/-- Something at least as new as a source of the given time stands at the end of the path. -/
def IsCurrent (t : FileTree) (p : Path) (sourceTime : Time) : Prop :=
  ∃ time, t.timeOf p = .ok time ∧ sourceTime ≤ time

/-- Nothing stands at the end of the path, or something older than a source of the given time. -/
def IsOutdated (t : FileTree) (p : Path) (sourceTime : Time) : Prop :=
  t.has p = .ok false ∨ ∃ time, t.timeOf p = .ok time ∧ time < sourceTime

/-- The time that a source counts with: that of what stands at the end of the path, or zero if there
is nothing. -/
def CountsAs (t : FileTree) (p : Path) (time : Time) : Prop :=
  t.has p = .ok false ∧ time = 0 ∨ t.timeOf p = .ok time

variable {t : FileTree} {p : Path} {sourceTime : Time}

theorem has_of_timeOf {time : Time} (h : t.timeOf p = .ok time) : t.has p = .ok true := by
  obtain ⟨e, he, -⟩ := timeOf_eq_ok.mp h
  exact has_of_lookup he

theorem IsCurrent.has (h : t.IsCurrent p sourceTime) : t.has p = .ok true := by
  obtain ⟨time, htime, -⟩ := h
  exact has_of_timeOf htime

theorem IsCurrent.not_isOutdated (h : t.IsCurrent p sourceTime) : ¬ t.IsOutdated p sourceTime := by
  obtain ⟨time, htime, hle⟩ := h
  rintro (habsent | ⟨time', htime', hlt⟩)
  · rw [has_of_timeOf htime] at habsent
    cases habsent
  · rw [htime] at htime'
    cases htime'
    exact Int.not_lt.mpr hle hlt

/-- The time that a question after the time of a source gives. -/
theorem countsAs_of_eq_ok
    (h : (do if ← t.has p then t.timeOf p else return 0) = Except.ok sourceTime) :
    t.CountsAs p sourceTime := by
  cases hhas : t.has p with
  | error e =>
      rw [hhas] at h
      cases h
  | ok there =>
      rw [hhas] at h
      cases there with
      | true => exact Or.inr h
      | false =>
          cases h
          exact Or.inl ⟨hhas, rfl⟩

theorem CountsAs.has (h : t.CountsAs p sourceTime) : ∃ there, t.has p = .ok there := by
  rcases h with ⟨hhas, -⟩ | htime
  · exact ⟨false, hhas⟩
  · exact ⟨true, has_of_timeOf htime⟩

theorem CountsAs.eq_ok (h : t.CountsAs p sourceTime) :
    (do if ← t.has p then t.timeOf p else return 0) = Except.ok sourceTime := by
  rcases h with ⟨hhas, rfl⟩ | htime
  · rw [hhas]
    rfl
  · rw [has_of_timeOf htime]
    exact htime

/-- What exists and is not outdated is current. -/
theorem isCurrent_of_not_isOutdated (hthere : t.has p = .ok true)
    (h : ¬ t.IsOutdated p sourceTime) : t.IsCurrent p sourceTime := by
  obtain ⟨e, he⟩ := has_eq_true.mp hthere
  refine ⟨e.time, timeOf_of_lookup he, Int.not_lt.mp ?_⟩
  intro hlt
  exact h (Or.inr ⟨e.time, timeOf_of_lookup he, hlt⟩)

theorem has_of_isReadOnly (h : t.isReadOnly p = .ok true) : t.has p = .ok true := by
  obtain ⟨content, time, he⟩ := isReadOnly_eq_true.mp h
  exact has_of_lookup he

theorem has_of_sameEntry {q : Path} (h : t.sameEntry p q = .ok true) :
    t.has p = .ok true ∧ t.has q = .ok true := by
  obtain ⟨place, e, hp, hq, hget⟩ := sameEntry_eq_true.mp h
  exact ⟨has_of_lookup (lookup_of_get? hp hget), has_of_lookup (lookup_of_get? hq hget)⟩

end FileTree

namespace Decision

open FileTree

variable {t : FileTree} {sourceTime : Time} {output byHandFile : Path} {force : Bool} {d : Decision}

theorem ofOutput_of_timeOf {time : Time} (h : t.timeOf output = .ok time) :
    ofOutput t sourceTime output false =
      .ok (if sourceTime ≤ time then .current output else .older output) := by
  unfold ofOutput
  rw [h]
  simp

/-- A decision on an output says that it is current, or that it is outdated or forced. -/
theorem ofOutput_eq_ok (h : ofOutput t sourceTime output force = .ok d) :
    d.isCurrent = true ∧ force = false ∧ t.IsCurrent output sourceTime ∨
      d.isCurrent = false ∧ (force = true ∨ t.IsOutdated output sourceTime) := by
  cases force with
  | true =>
      cases h
      exact Or.inr ⟨rfl, Or.inl rfl⟩
  | false =>
      cases htime : t.timeOf output with
      | ok time =>
          rw [ofOutput_of_timeOf htime] at h
          by_cases hle : sourceTime ≤ time
          · rw [if_pos hle] at h
            cases h
            exact Or.inl ⟨rfl, rfl, time, htime, hle⟩
          · rw [if_neg hle] at h
            cases h
            exact Or.inr ⟨rfl, Or.inr (Or.inr ⟨time, htime, Int.not_le.mp hle⟩)⟩
      | error e =>
          have hhas := has_of_lookup_error (timeOf_eq_error.mp htime)
          unfold ofOutput at h
          rw [htime] at h
          rcases e with ⟨cause, p⟩
          cases cause <;> cases h
          exact Or.inr ⟨rfl, Or.inr (Or.inl hhas)⟩

/-- A decision on the properties file of a locale says in addition whether it is the file maintained
by hand. -/
theorem ofLocaleFile_eq_ok (h : ofLocaleFile t sourceTime output byHandFile force = .ok d) :
    d.isCurrent = true ∧ t.sameEntry output byHandFile = .ok true ∨
      t.sameEntry output byHandFile = .ok false ∧ ofOutput t sourceTime output force = .ok d := by
  unfold ofLocaleFile at h
  cases hsame : t.sameEntry output byHandFile with
  | error e =>
      rw [hsame] at h
      cases h
  | ok same =>
      rw [hsame] at h
      cases same with
      | true =>
          cases h
          exact Or.inl ⟨rfl, rfl⟩
      | false => exact Or.inr ⟨rfl, h⟩

/-- A decision on outputs that are generated together says that all are current, or that one of them
is outdated or forced. -/
theorem ofOutputs_eq_ok {outputs : List Path}
    (h : ofOutputs t sourceTime force outputs = .ok d) :
    d.isCurrent = true ∧ (∀ p ∈ outputs, force = false ∧ t.IsCurrent p sourceTime) ∨
      d.isCurrent = false ∧ ∃ p ∈ outputs, force = true ∨ t.IsOutdated p sourceTime := by
  induction outputs with
  | nil =>
      cases h
      exact Or.inl ⟨rfl, by simp⟩
  | cons output rest ih =>
      unfold ofOutputs at h
      cases hfirst : ofOutput t sourceTime output force with
      | error e =>
          rw [hfirst] at h
          cases h
      | ok first =>
          rw [hfirst] at h
          rcases ofOutput_eq_ok hfirst with ⟨hcurrent, hfine⟩ | ⟨hstale, hfault⟩
          · simp only [hcurrent, if_true] at h
            rcases ih h with ⟨hd, hrest⟩ | ⟨hd, p, hp, hrest⟩
            · refine Or.inl ⟨hd, ?_⟩
              rintro p (_ | ⟨_, hp⟩)
              · exact hfine
              · exact hrest p hp
            · exact Or.inr ⟨hd, p, List.mem_cons_of_mem output hp, hrest⟩
          · simp only [hstale] at h
            cases h
            exact Or.inr ⟨hstale, output, List.mem_cons_self, hfault⟩

/-- Nothing is generated of outputs that are all current. -/
theorem ofOutputs_of_isCurrent {outputs : List Path}
    (h : ∀ p ∈ outputs, t.IsCurrent p sourceTime) :
    ofOutputs t sourceTime false outputs = .ok .allCurrent := by
  induction outputs with
  | nil => rfl
  | cons output rest ih =>
      obtain ⟨time, htime, hle⟩ := h output List.mem_cons_self
      unfold ofOutputs
      rw [ofOutput_of_timeOf htime, if_pos hle]
      exact ih fun p hp => h p (List.mem_cons_of_mem output hp)

end Decision
end MessageCatalog
