import MessageCatalog.FileTree.Basic
import Mathlib.Tactic.SplitIfs

/-!
# What stands at the end of a path

The questions that a run asks about a path (whether something is there, how old it is, whether it
may be written, whether it is the same as something else) are all answered by what the path leads
to. This module says how, question by question.
-/

namespace MessageCatalog
namespace FileTree

variable {t : FileTree} {p q : Path}

theorem lookup_of_locate_error {e : FileError} (h : t.locate true p = .error e) :
    t.lookup p = .error e := by
  unfold lookup
  rw [h]
  rfl

theorem lookup_of_get? {place : Place} {e : Entry} (h : t.locate true p = .ok place)
    (he : t.get? place = some e) : t.lookup p = .ok e := by
  unfold lookup
  rw [h]
  simp only [bind, Except.bind, he]

theorem lookup_of_absent {place : Place} (h : t.locate true p = .ok place)
    (hnone : t.get? place = none) : t.lookup p = .error ⟨.notFound, p⟩ := by
  unfold lookup
  rw [h]
  simp only [bind, Except.bind, hnone]

/-- A path leads to an entry when it leads to a place at which the entry stands. -/
theorem lookup_eq_ok {e : Entry} :
    t.lookup p = .ok e ↔ ∃ place, t.locate true p = .ok place ∧ t.get? place = some e := by
  constructor
  · intro h
    cases hloc : t.locate true p with
    | error e' =>
        rw [lookup_of_locate_error hloc] at h
        cases h
    | ok place =>
        cases hget : t.get? place with
        | none =>
            rw [lookup_of_absent hloc hget] at h
            cases h
        | some e' =>
            rw [lookup_of_get? hloc hget] at h
            cases h
            exact ⟨place, rfl, hget⟩
  · rintro ⟨place, hloc, hget⟩
    exact lookup_of_get? hloc hget

theorem has_of_lookup {e : Entry} (h : t.lookup p = .ok e) : t.has p = .ok true := by
  unfold has
  rw [h]

theorem has_of_lookup_error {e : FileError} (h : t.lookup p = .error e) :
    t.has p = if e.cause.isAbsence then .ok false else .error e := by
  unfold has
  rw [h]

theorem has_eq_true : t.has p = .ok true ↔ ∃ e, t.lookup p = .ok e := by
  cases h : t.lookup p with
  | ok e => simp [has_of_lookup h]
  | error e =>
      rw [has_of_lookup_error h]
      split_ifs <;> simp

theorem timeOf_of_lookup {e : Entry} (h : t.lookup p = .ok e) : t.timeOf p = .ok e.time := by
  unfold timeOf
  rw [h]
  rfl

theorem timeOf_of_lookup_error {e : FileError} (h : t.lookup p = .error e) :
    t.timeOf p = .error e := by
  unfold timeOf
  rw [h]
  rfl

theorem timeOf_eq_ok {time : Time} :
    t.timeOf p = .ok time ↔ ∃ e, t.lookup p = .ok e ∧ e.time = time := by
  cases h : t.lookup p with
  | ok e => simp [timeOf_of_lookup h]
  | error e => simp [timeOf_of_lookup_error h]

theorem timeOf_eq_error {e : FileError} : t.timeOf p = .error e ↔ t.lookup p = .error e := by
  cases h : t.lookup p with
  | ok e => simp [timeOf_of_lookup h]
  | error e => simp [timeOf_of_lookup_error h]

theorem isReadOnly_eq_true :
    t.isReadOnly p = .ok true ↔ ∃ content time, t.lookup p = .ok (.file content time false) := by
  unfold isReadOnly
  cases h : t.lookup p with
  | ok e =>
      cases e with
      | file content time writable => simp
      | directory time => simp
      | link target => simp
  | error e =>
      simp only
      split_ifs <;> simp

theorem read_eq_ok {content : Bytes} :
    t.read p = .ok content ↔ ∃ time writable, t.lookup p = .ok (.file content time writable) := by
  unfold read
  cases h : t.lookup p with
  | ok e =>
      cases e with
      | file content time writable => simp [bind, Except.bind]
      | directory time => simp [bind, Except.bind]
      | link target => simp [bind, Except.bind]
  | error e => simp [bind, Except.bind]

/-- Two paths lead to the same entry when they lead to the same place and something stands there. -/
theorem sameEntry_eq_true :
    t.sameEntry p q = .ok true ↔
      ∃ place e, t.locate true p = .ok place ∧ t.locate true q = .ok place ∧
        t.get? place = some e := by
  unfold sameEntry
  constructor
  · intro h
    cases hp : t.has p with
    | error e => simp [hp, bind, Except.bind] at h
    | ok bp =>
        cases hq : t.has q with
        | error e => simp [hp, hq, bind, Except.bind] at h
        | ok bq =>
            cases bp <;> cases bq <;> simp [hp, hq, bind, Except.bind, pure, Except.pure] at h
            obtain ⟨e, he⟩ := has_eq_true.mp hp
            obtain ⟨place, hloc, hget⟩ := lookup_eq_ok.mp he
            obtain ⟨e', he'⟩ := has_eq_true.mp hq
            obtain ⟨place', hloc', hget'⟩ := lookup_eq_ok.mp he'
            simp [hloc, hloc'] at h
            subst h
            exact ⟨place, e, hloc, hloc', hget⟩
  · rintro ⟨place, e, hp, hq, hget⟩
    have hasp := has_of_lookup (lookup_of_get? hp hget)
    have hasq := has_of_lookup (lookup_of_get? hq hget)
    simp [hasp, hasq, hp, hq, bind, Except.bind, pure, Except.pure]

/-- Whether two paths lead to the same entry can be told when it can be told whether they lead to
any. -/
theorem sameEntry_of_has {there there' : Bool} (hp : t.has p = .ok there)
    (hq : t.has q = .ok there') : ∃ same, t.sameEntry p q = .ok same := by
  unfold sameEntry
  rw [hp, hq]
  cases there with
  | false => exact ⟨false, rfl⟩
  | true =>
      cases there' with
      | false => exact ⟨false, rfl⟩
      | true =>
          obtain ⟨e, he⟩ := has_eq_true.mp hp
          obtain ⟨e', he'⟩ := has_eq_true.mp hq
          obtain ⟨place, hloc, -⟩ := lookup_eq_ok.mp he
          obtain ⟨place', hloc', -⟩ := lookup_eq_ok.mp he'
          rw [hloc, hloc']
          exact ⟨decide (place = place'), rfl⟩

end FileTree
end MessageCatalog
