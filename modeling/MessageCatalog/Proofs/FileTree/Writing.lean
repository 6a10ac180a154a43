import MessageCatalog.Proofs.Computation
import MessageCatalog.Proofs.FileTree.Growth

/-!
# Writing a file

Writing a file makes the directories that are missing, one below the other, and then the file. The
tree grows by this one write, also when it fails halfway; when it succeeds the file is there, with
the new contents and the time of the write.

**Results.**
* `writeFile_grows`: a write leads to a tree that has grown by it.
* `writeFile_eq_ok`: after a write that succeeds the path leads to the new file.
* `writeFile_eq_error`: a write that fails leaves all files as they are.
-/

namespace MessageCatalog
namespace FileTree

/-- The one write of a path at a time. -/
def only (p : Path) (now : Time) : Path → Time → Prop :=
  fun q time => q = p ∧ time = now

variable {writes : Path → Time → Prop} {t u : FileTree} {place : Place} {now : Time}

theorem get?_set_self (t : FileTree) (place : Place) (e : Entry) :
    (t.set place e).get? place = some e := by
  rw [get?_set, if_pos rfl]

theorem get?_set_of_ne {other : Place} (h : other ≠ place) (e : Entry) :
    (t.set place e).get? other = t.get? other := by
  rw [get?_set, if_neg h]

/-- A directory that gets the time of a write. -/
theorem grows_set_directory (hw : ∃ p, writes p now) {time : Time}
    (hdir : t.get? place = some (.directory time)) :
    Grows writes t (t.set place (.directory now)) where
  workingDirectory := rfl
  link := by
    intro other target
    by_cases h : other = place
    · subst h
      rw [get?_set_self, hdir]
      simp
    · rw [get?_set_of_ne h]
  directory := by
    intro other time' hother
    by_cases h : other = place
    · subst h
      exact ⟨now, get?_set_self t other _, Or.inr hw⟩
    · exact ⟨time', by rw [get?_set_of_ne h, hother], Or.inl rfl⟩
  file := by
    intro other content time' writable hother
    by_cases h : other = place
    · subst h
      rw [hdir] at hother
      cases hother
    · exact Or.inl (by rw [get?_set_of_ne h, hother])
  absent := by
    intro other hother
    by_cases h : other = place
    · subst h
      rw [hdir] at hother
      cases hother
    · exact Or.inl (by rw [get?_set_of_ne h, hother])

theorem grows_touchParent (hw : ∃ p, writes p now) (t : FileTree) (place : Place) :
    Grows writes t (t.touchParent place now) := by
  unfold touchParent
  split
  · rename_i time hdir
    exact grows_set_directory hw hdir
  · exact Grows.refl writes t

/-- The time of the directory that holds a place does not matter for a place where nothing stands.
-/
theorem get?_touchParent_of_none (now : Time) (hnone : t.get? place = none) :
    (t.touchParent place now).get? place = none := by
  unfold touchParent
  split
  · rename_i time hdir
    have hne : place ≠ place.dropLast := by
      intro heq
      rw [← heq, hnone] at hdir
      cases hdir
    rw [get?_set_of_ne hne, hnone]
  · exact hnone

/-- A new directory. -/
theorem grows_insert_directory (hw : ∃ p, writes p now) (hnone : t.get? place = none) :
    Grows writes t (t.insert place (.directory now) now) := by
  have hparent := grows_touchParent hw t place
  have hnone' := get?_touchParent_of_none now hnone
  refine hparent.trans ⟨rfl, ?_, ?_, ?_, ?_⟩
  · intro other target
    by_cases h : other = place
    · subst h
      rw [insert, get?_set_self, hnone']
      simp
    · rw [insert, get?_set_of_ne h]
  · intro other time hother
    have h : other ≠ place := by
      rintro rfl
      rw [hnone'] at hother
      cases hother
    exact ⟨time, by rw [insert, get?_set_of_ne h, hother], Or.inl rfl⟩
  · intro other content time writable hother
    have h : other ≠ place := by
      rintro rfl
      rw [hnone'] at hother
      cases hother
    exact Or.inl (by rw [insert, get?_set_of_ne h, hother])
  · intro other hother
    by_cases h : other = place
    · subst h
      obtain ⟨p, hp⟩ := hw
      exact Or.inr (Or.inl ⟨p, now, hp, by rw [insert, get?_set_self]⟩)
    · exact Or.inl (by rw [insert, get?_set_of_ne h, hother])

/-- A file put where nothing or a file that may be written stood. -/
theorem grows_set_file {p : Path} (content : Bytes) (now : Time)
    (hloc : t.locate true p = .ok place)
    (hold : t.get? place = none ∨
      ∃ content' time', t.get? place = some (.file content' time' true)) :
    Grows (only p now) t (t.set place (.file content now true)) := by
  have hkeeps : Keeps t (t.set place (.file content now true)) := by
    refine ⟨rfl, ?_, ?_, ?_⟩
    · intro other target
      by_cases h : other = place
      · subst h
        rw [get?_set_self]
        rcases hold with hold | ⟨content', time', hold⟩ <;> simp [hold]
      · rw [get?_set_of_ne h]
    · intro other time hother
      have h : other ≠ place := by
        rintro rfl
        rcases hold with hold | ⟨content', time', hold⟩ <;> simp [hold] at hother
      exact ⟨time, by rw [get?_set_of_ne h, hother]⟩
    · intro other content' time writable hother
      by_cases h : other = place
      · subst h
        exact ⟨content, now, true, get?_set_self t other _⟩
      · exact ⟨content', time, writable, by rw [get?_set_of_ne h, hother]⟩
  have hwritten : WrittenAt (only p now) (t.set place (.file content now true)) place :=
    ⟨p, content, now, ⟨rfl, rfl⟩, hkeeps.locate_of_ok hloc, get?_set_self t place _⟩
  refine ⟨rfl, hkeeps.link, ?_, ?_, ?_⟩
  · intro other time hother
    have h : other ≠ place := by
      rintro rfl
      rcases hold with hold | ⟨content', time', hold⟩ <;> simp [hold] at hother
    exact ⟨time, by rw [get?_set_of_ne h, hother], Or.inl rfl⟩
  · intro other content' time writable hother
    by_cases h : other = place
    · subst h
      rcases hold with hold | ⟨content'', time', hold⟩
      · rw [hold] at hother
        cases hother
      · rw [hold] at hother
        cases hother
        exact Or.inr ⟨rfl, hwritten⟩
    · exact Or.inl (by rw [get?_set_of_ne h, hother])
  · intro other hother
    by_cases h : other = place
    · subst h
      exact Or.inr (Or.inr hwritten)
    · exact Or.inl (by rw [get?_set_of_ne h, hother])

/-- The tree that a write gives has grown by it, and the path leads to the new file. -/
theorem write_eq_ok {p : Path} {content : Bytes} (h : t.write p content now = .ok u) :
    Grows (only p now) t u ∧ u.lookup p = .ok (.file content now true) := by
  unfold write at h
  cases hloc : t.locate true p with
  | error e => simp [hloc, bind, Except.bind] at h
  | ok place =>
      cases hget : t.get? place with
      | none =>
          have hu : u = t.insert place (.file content now true) now := by
            simpa [hloc, hget, bind, Except.bind, pure, Except.pure] using h.symm
          have hparent : Grows (only p now) t (t.touchParent place now) :=
            grows_touchParent ⟨p, rfl, rfl⟩ t place
          have hnone := get?_touchParent_of_none now hget
          have hfile := grows_set_file content now
            (hparent.locate_of_ok hloc) (Or.inl hnone)
          rw [hu]
          exact ⟨hparent.trans hfile,
            lookup_of_get? (hfile.locate_of_ok (hparent.locate_of_ok hloc))
              (get?_set_self _ place _)⟩
      | some e =>
          cases e with
          | file content' time writable =>
              cases writable with
              | true =>
                  have hu : u = t.set place (.file content now true) := by
                    simpa [hloc, hget, bind, Except.bind, pure, Except.pure] using h.symm
                  have hfile := grows_set_file content now hloc
                    (Or.inr ⟨content', time, hget⟩)
                  rw [hu]
                  exact ⟨hfile, lookup_of_get? (hfile.locate_of_ok hloc) (get?_set_self t place _)⟩
              | false =>
                  simp [hloc, hget, bind, Except.bind, throw, throwThe, MonadExceptOf.throw] at h
          | directory time =>
              simp [hloc, hget, bind, Except.bind, throw, throwThe, MonadExceptOf.throw] at h
          | link target =>
              simp [hloc, hget, bind, Except.bind, throw, throwThe, MonadExceptOf.throw] at h

theorem grows_makeDirectory (hw : ∃ p, writes p now) {p : Path}
    (h : t.makeDirectory p now = .ok u) : Grows writes t u := by
  unfold makeDirectory at h
  cases hloc : t.locate false p with
  | error e => simp [hloc, bind, Except.bind] at h
  | ok place =>
      cases hget : t.get? place with
      | none =>
          have hu : u = t.insert place (.directory now) now := by
            simpa [hloc, hget, bind, Except.bind, pure, Except.pure] using h.symm
          rw [hu]
          exact grows_insert_directory hw hget
      | some e => simp [hloc, hget, bind, Except.bind, throw, throwThe, MonadExceptOf.throw] at h

/-- All files are the same in both trees. -/
def KeepsFiles (t u : FileTree) : Prop :=
  ∀ place, KeepsFile place t u

/-- A path that leads to no place in any tree. -/
def nowhere : Path :=
  ⟨.here, [['\x00']]⟩

/-- A tree that has grown by a write to no place has other directories only. -/
theorem Grows.keepsFiles (h : Grows (only nowhere now) t u) : KeepsFiles t u := by
  intro place
  refine h.keepsFile ?_
  rintro ⟨p, content, time, ⟨rfl, -⟩, hplace, -⟩
  cases hplace

end FileTree

namespace FileAction

open FileTree

variable {writes : Path → Time → Prop} {now : Time}

theorem outcome_apply (change : FileTree → Except FileError FileTree) (t : FileTree) :
    outcome (apply change) t =
      match change t with
      | .ok u => (.ok ⟨⟩, u)
      | .error e => (.error e, t) := by
  unfold apply
  rw [outcome_bind_of_ok (outcome_get t)]
  cases change t with
  | ok u => rfl
  | error e => rfl

theorem outcome_ensureDirectory (p : Path) (t : FileTree) :
    (outcome (ensureDirectory p now) t).2 =
      match t.makeDirectory p now with
      | .ok u => u
      | .error _ => t := by
  unfold ensureDirectory
  rw [outcome_bind_of_ok (outcome_get t)]
  cases h : t.makeDirectory p now with
  | ok u => rfl
  | error e =>
      by_cases habs : (decide (e.cause = .notFound) || !e.isSystem) = true
      · simp [habs]
      · simp only [habs]
        cases t.hasDirectory p with
        | ok b => cases b <;> rfl
        | error e' => rfl

theorem ensureDirectory_grows (hw : ∃ p, writes p now) (p : Path) :
    Leads (Grows writes) (ensureDirectory p now) := by
  intro t
  rw [outcome_ensureDirectory]
  cases h : t.makeDirectory p now with
  | ok u => exact grows_makeDirectory hw h
  | error e => exact Grows.refl writes t

theorem makeDirectoriesTo_grows (hw : ∃ p, writes p now) (depth : Nat) (p : Path) :
    Leads (Grows writes) (makeDirectoriesTo now depth p) := by
  induction depth generalizing p with
  | zero => exact ensureDirectory_grows hw p
  | succ depth ih =>
      intro t
      unfold makeDirectoriesTo
      rw [outcome_bind_of_ok (outcome_get t)]
      split
      · exact Leads.bind (Grows writes) Grows.trans (ih p.parent)
          (fun _ => ensureDirectory_grows hw p) t
      · exact ensureDirectory_grows hw p t

/-- A write of a file leads to a tree that has grown by it. -/
theorem writeFile_grows (p : Path) (content : Bytes) (now : Time) :
    Leads (Grows (only p now)) (writeFile p content now) := by
  unfold writeFile
  have hw : ∃ q, only p now q now := ⟨p, rfl, rfl⟩
  refine Leads.bind (Grows (only p now)) Grows.trans (makeDirectoriesTo_grows hw _ _) fun _ t => ?_
  rw [outcome_apply]
  cases h : t.write p content now with
  | ok u => exact (write_eq_ok h).1
  | error e => exact Grows.refl _ t

/-- After a write that succeeds the path leads to the new file. -/
theorem writeFile_eq_ok {p : Path} {content : Bytes} {t u : FileTree}
    (h : outcome (writeFile p content now) t = (.ok ⟨⟩, u)) :
    Grows (only p now) t u ∧ u.lookup p = .ok (.file content now true) := by
  have hgrows := writeFile_grows p content now t
  rw [h] at hgrows
  refine ⟨hgrows, ?_⟩
  unfold writeFile at h
  obtain ⟨_, t', -, h⟩ := outcome_bind_eq_ok.mp h
  rw [outcome_apply] at h
  cases hw : t'.write p content now with
  | ok u' =>
      rw [hw] at h
      cases h
      exact (write_eq_ok hw).2
  | error e =>
      rw [hw] at h
      cases h

/-- A write that fails leaves all files as they are. -/
theorem writeFile_eq_error {p : Path} {content : Bytes} {t u : FileTree} {e : FileError}
    (h : outcome (writeFile p content now) t = (.error e, u)) : KeepsFiles t u := by
  have hdirectories : Leads (Grows (only nowhere now)) (makeDirectories p.parent now) :=
    makeDirectoriesTo_grows ⟨nowhere, rfl, rfl⟩ _ _
  have hgrows := hdirectories t
  unfold writeFile at h
  rcases outcome_bind_eq_error.mp h with hmake | ⟨_, t', hmake, hwrite⟩
  · rw [hmake] at hgrows
    exact hgrows.keepsFiles
  · rw [hmake] at hgrows
    rw [outcome_apply] at hwrite
    cases hw : t'.write p content now with
    | ok u' =>
        rw [hw] at hwrite
        cases hwrite
    | error e' =>
        rw [hw] at hwrite
        cases hwrite
        exact hgrows.keepsFiles

end FileAction
end MessageCatalog
