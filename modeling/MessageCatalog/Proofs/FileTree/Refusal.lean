import MessageCatalog.Generation.Staleness
import MessageCatalog.Proofs.FileTree.Writing

/-!
# Paths with a null character

The system is not even asked about a path that contains a null character. Such an error is the only
one of a file tree that is not a report of the system, and it is about a path that does contain one:
no walk through a tree, and nothing that is done at the place a path leads to, gives it.

**Results.**
* `FileError.IsFair`: an error that is no report of the system is about a path with a null
  character.
* `Path.Admits`: what errors about a path can be like; `locate_refuses`: finding a place gives such
  errors only.
* `FileAction.writeFile_fair`: the errors of writing a file are fair.
* `FileAction.writeFile_isSystem`: without a null character they are reports of the system.
-/

namespace MessageCatalog

/-- The path contains a null character. -/
def Path.HasNull (p : Path) : Prop :=
  p.names.any (·.contains '\x00') = true

/-- The error is a report of the system, or it is about a path with a null character. -/
def FileError.IsFair (e : FileError) : Prop :=
  e.isSystem = true ∨ e.path.HasNull

/-- Whenever the result is an error, it is of the given kind. -/
def Refuses {α : Type} (E : FileError → Prop) (x : Except FileError α) : Prop :=
  ∀ e, x = .error e → E e

/-- Whenever the result is an error, it is a fair one. -/
def Fair {α : Type} (x : Except FileError α) : Prop :=
  Refuses FileError.IsFair x

/-- Errors about the path are of the given kind, also that about a null character if it has one. -/
def Path.Admits (p : Path) (E : FileError → Prop) : Prop :=
  ∀ cause, (cause = .nullCharacter → p.HasNull) → E ⟨cause, p⟩

/-- Every cause but a null character is a report of the system. -/
theorem FileError.isSystem_of_ne {e : FileError} (h : e.cause ≠ .nullCharacter) :
    e.isSystem = true := by
  rcases e with ⟨cause, p⟩
  cases cause with
  | nullCharacter => exact absurd rfl h
  | _ => rfl

theorem Path.admits_isFair (p : Path) : p.Admits FileError.IsFair := by
  intro cause hnull
  by_cases hcause : cause = .nullCharacter
  · exact .inr (hnull hcause)
  · exact .inl (FileError.isSystem_of_ne hcause)

theorem Path.admits_isSystem_iff {p : Path} :
    (p.Admits fun e => e.isSystem = true) ↔ ¬ p.HasNull := by
  constructor
  · intro h hnull
    cases h .nullCharacter fun _ => hnull
  · intro h cause hnull
    exact FileError.isSystem_of_ne fun hcause => h (hnull hcause)

/-- What stands above a path without a null character has none either. -/
theorem Path.HasNull.of_parent {p : Path} (h : p.parent.HasNull) : p.HasNull := by
  obtain ⟨name, hname, hnull⟩ := List.any_eq_true.mp h
  exact List.any_eq_true.mpr ⟨name, List.dropLast_subset _ hname, hnull⟩

namespace Refuses

variable {α β : Type} {E : FileError → Prop}

theorem ok (a : α) : Refuses E (.ok a : Except FileError α) := by
  intro e h
  cases h

theorem error {e : FileError} (h : E e) : Refuses E (.error e : Except FileError α) := by
  rintro _ ⟨⟩
  exact h

theorem bind {x : Except FileError α} {f : α → Except FileError β} (hx : Refuses E x)
    (hf : ∀ a, Refuses E (f a)) : Refuses E (x >>= f) := by
  intro e h
  cases x with
  | error e' =>
      cases h
      exact hx e rfl
  | ok a => exact hf a e h

/-- A mere test takes some errors for the absence of an entry. -/
theorem absence {e : FileError} (h : E e) :
    Refuses E (if e.cause.isAbsence then .ok false else .error e) := by
  by_cases habsent : e.cause.isAbsence = true
  · rw [if_pos habsent]
    exact ok false
  · rw [if_neg habsent]
    exact error h

end Refuses

namespace FileTree

variable {t : FileTree} {p : Path} {E : FileError → Prop}

theorem walkWith_ne_nullCharacter (follow : Bool)
    {through : Place → List Text → Except FileCause Place}
    (hthrough : ∀ here names, through here names ≠ .error .nullCharacter) (here : Place)
    (names : List Text) : t.walkWith follow through here names ≠ .error .nullCharacter := by
  induction here, names using FileTree.walkWith.induct t follow with
  | case1 here => simp [walkWith_nil]
  | case2 here rest time hdir ih =>
      rw [walkWith_up hdir]
      exact ih
  | case3 here name rest time hdir hup hlong => simp [walkWith_tooLong hdir hup hlong]
  | case4 here name rest time hdir hup hlong target hlink hlast =>
      simp [walkWith_lastLink hdir hup hlong hlink hlast]
  | case5 here name rest time hdir hup hlong target hlink hlast =>
      rw [walkWith_link hdir hup hlong hlink hlast]
      exact hthrough _ _
  | case6 here name rest time hdir hup hlong hlink ih =>
      rw [walkWith_name hdir hup hlong hlink]
      exact ih
  | case7 here name rest e hdir he => simp [walkWith_notDirectory he hdir]
  | case8 here name rest hnone => simp [walkWith_missing hnone]

/-- No walk through a tree ends at a null character. -/
theorem walk_ne_nullCharacter (follow : Bool) (links : Nat) (here : Place) (names : List Text) :
    t.walk follow links here names ≠ .error .nullCharacter := by
  induction links generalizing here names with
  | zero => exact walkWith_ne_nullCharacter follow (by simp) here names
  | succ links ih => exact walkWith_ne_nullCharacter follow ih here names

/-- The errors of finding a place are about the path itself. -/
theorem locate_refuses (h : p.Admits E) (follow : Bool) : Refuses E (t.locate follow p) := by
  unfold locate
  by_cases hnull : p.names.any (·.contains '\x00') = true
  · rw [if_pos hnull]
    exact .error (h _ fun _ => hnull)
  · rw [if_neg hnull]
    by_cases hlong : maxPathLength < p.text.utf8.length
    · rw [if_pos hlong]
      exact .error (h _ (by simp))
    · rw [if_neg hlong]
      cases hwalk : t.walk follow maxLinks (startOf t.workingDirectory p) p.names with
      | ok place => exact .ok place
      | error cause =>
          refine .error (h _ fun hcause => ?_)
          rw [hcause] at hwalk
          exact absurd hwalk (walk_ne_nullCharacter follow _ _ _)

/-- A path that leads somewhere has no null character. -/
theorem not_hasNull_of_locate {follow : Bool} {place : Place}
    (h : t.locate follow p = .ok place) : ¬ p.HasNull := by
  intro hnull
  unfold Path.HasNull at hnull
  unfold locate at h
  rw [if_pos hnull] at h
  cases h

theorem lookup_refuses (h : p.Admits E) : Refuses E (t.lookup p) := by
  refine .bind (locate_refuses h true) fun place => ?_
  cases t.get? place with
  | some e => exact .ok e
  | none => exact .error (h _ (by simp))

theorem hasDirectory_refuses (h : p.Admits E) : Refuses E (t.hasDirectory p) := by
  unfold hasDirectory
  cases hlookup : t.lookup p with
  | ok e =>
      cases e with
      | file content time writable => exact .ok false
      | directory time => exact .ok true
      | link target => exact .ok false
  | error e => exact .absence (lookup_refuses h e hlookup)

theorem write_refuses (h : p.Admits E) (content : Bytes) (now : Time) :
    Refuses E (t.write p content now) := by
  refine .bind (locate_refuses h true) fun place => ?_
  cases t.get? place with
  | none => exact .ok _
  | some e =>
      cases e with
      | file old time writable =>
          cases writable with
          | true => exact .ok _
          | false => exact .error (h _ (by simp))
      | directory time => exact .error (h _ (by simp))
      | link target => exact .error (h _ (by simp))

theorem makeDirectory_refuses (h : p.Admits E) (now : Time) :
    Refuses E (t.makeDirectory p now) := by
  refine .bind (locate_refuses h false) fun place => ?_
  cases t.get? place with
  | none => exact .ok _
  | some e => exact .error (h _ (by simp))

theorem locate_fair (follow : Bool) (p : Path) : Fair (t.locate follow p) :=
  locate_refuses p.admits_isFair follow

theorem lookup_fair (p : Path) : Fair (t.lookup p) :=
  lookup_refuses p.admits_isFair

theorem has_fair (p : Path) : Fair (t.has p) := by
  unfold has
  cases h : t.lookup p with
  | ok e => exact .ok true
  | error e => exact .absence (lookup_fair p e h)

theorem isReadOnly_fair (p : Path) : Fair (t.isReadOnly p) := by
  unfold isReadOnly
  cases h : t.lookup p with
  | ok e =>
      cases e with
      | file content time writable => exact .ok (!writable)
      | directory time => exact .ok false
      | link target => exact .ok false
  | error e => exact .absence (lookup_fair p e h)

theorem timeOf_fair (p : Path) : Fair (t.timeOf p) :=
  .bind (lookup_fair p) fun e => .ok e.time

theorem read_fair (p : Path) : Fair (t.read p) := by
  refine .bind (lookup_fair p) fun e => ?_
  cases e with
  | file content time writable => exact .ok content
  | directory time => exact .error (Or.inl rfl)
  | link target => exact .error (Or.inl rfl)

theorem sameEntry_fair (p q : Path) : Fair (t.sameEntry p q) := by
  refine .bind (has_fair p) fun there => .bind (has_fair q) fun there' => ?_
  cases there && there' with
  | false => exact .ok false
  | true =>
      exact .bind (locate_fair true p) fun place => .bind (locate_fair true q) fun place' => .ok _

end FileTree

namespace Decision

open FileTree

variable {t : FileTree} {sourceTime : Time} {force : Bool}

theorem ofOutput_fair (output : Path) : Fair (ofOutput t sourceTime output force) := by
  unfold ofOutput
  cases force with
  | true => exact .ok _
  | false =>
      rw [if_neg Bool.false_ne_true]
      cases h : t.timeOf output with
      | ok time => exact .ok _
      | error e =>
          have hfair := timeOf_fair output e h
          rcases e with ⟨cause, p⟩
          cases cause with
          | notFound => exact .ok _
          | _ => exact .error hfair

theorem ofLocaleFile_fair (output byHandFile : Path) :
    Fair (ofLocaleFile t sourceTime output byHandFile force) := by
  refine .bind (sameEntry_fair output byHandFile) fun same => ?_
  cases same with
  | true => exact .ok _
  | false => exact ofOutput_fair output

theorem ofOutputs_fair (outputs : List Path) : Fair (ofOutputs t sourceTime force outputs) := by
  induction outputs with
  | nil => exact .ok _
  | cons output rest ih =>
      unfold ofOutputs
      cases h : ofOutput t sourceTime output force with
      | error e => exact .error (ofOutput_fair output e h)
      | ok decision =>
          cases hcurrent : decision.isCurrent with
          | true =>
              simp only [hcurrent, if_true]
              exact ih
          | false =>
              simp only [hcurrent]
              exact .ok decision

end Decision

namespace FileAction

open FileTree

variable {now : Time} {E : FileError → Prop} {p : Path}

theorem apply_refuses {change : FileTree → Except FileError FileTree}
    (h : ∀ t : FileTree, Refuses E (change t)) : StopsWith E (apply change) := by
  intro t e u he
  rw [outcome_apply] at he
  cases hchange : change t with
  | ok v =>
      rw [hchange] at he
      cases he
  | error e' =>
      rw [hchange] at he
      cases he
      exact h t e hchange

theorem ensureDirectory_refuses (h : p.Admits E) : StopsWith E (ensureDirectory p now) := by
  intro t e u he
  unfold ensureDirectory at he
  rw [outcome_bind_of_ok (outcome_get t)] at he
  cases hmake : t.makeDirectory p now with
  | ok v =>
      rw [hmake] at he
      cases he
  | error e' =>
      have hrefused := makeDirectory_refuses h now e' hmake
      rw [hmake] at he
      by_cases habs : (decide (e'.cause = .notFound) || !e'.isSystem) = true
      · simp only [habs, if_true, outcome_throw] at he
        cases he
        exact hrefused
      · simp only [habs] at he
        cases hdir : t.hasDirectory p with
        | ok there =>
            rw [hdir] at he
            cases there with
            | true => cases he
            | false =>
                cases he
                exact hrefused
        | error e'' =>
            rw [hdir] at he
            cases he
            exact hasDirectory_refuses h e hdir

/-- Making directories can fail at the directory or at any one above it. -/
theorem makeDirectoriesTo_refuses (hparent : ∀ q : Path, q.Admits E → q.parent.Admits E)
    (depth : Nat) (h : p.Admits E) : StopsWith E (makeDirectoriesTo now depth p) := by
  induction depth generalizing p with
  | zero => exact ensureDirectory_refuses h
  | succ depth ih =>
      intro t e u he
      unfold makeDirectoriesTo at he
      rw [outcome_bind_of_ok (outcome_get t)] at he
      split at he
      · exact StopsWith.bind (ih (hparent p h)) (fun _ => ensureDirectory_refuses h) t e u he
      · exact ensureDirectory_refuses h t e u he

theorem writeFile_refuses (hparent : ∀ q : Path, q.Admits E → q.parent.Admits E)
    (h : p.Admits E) (content : Bytes) : StopsWith E (writeFile p content now) :=
  .bind (makeDirectoriesTo_refuses hparent _ (hparent p h))
    fun _ => apply_refuses fun _ => write_refuses h content now

theorem writeFile_fair (p : Path) (content : Bytes) :
    StopsWith FileError.IsFair (writeFile p content now) :=
  writeFile_refuses (fun q _ => q.parent.admits_isFair) p.admits_isFair content

/-- A write to a path without a null character fails by a report of the system only. -/
theorem writeFile_isSystem (h : ¬ p.HasNull) (content : Bytes) :
    StopsWith (fun e => e.isSystem = true) (writeFile p content now) := by
  refine writeFile_refuses (fun q hq => ?_) (Path.admits_isSystem_iff.mpr h) content
  have hnull := Path.admits_isSystem_iff.mp hq
  exact Path.admits_isSystem_iff.mpr fun hparent => hnull hparent.of_parent

end FileAction
end MessageCatalog
