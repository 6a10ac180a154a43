import MessageCatalog.FileTree.Update
import MessageCatalog.Proofs.FileTree.Lookup

/-!
# Trees that grow

A run never takes anything away from a file tree: it makes directories, makes files and gives files
new contents. `Grows writes t u` says that the tree `u` has come from `t` in this way, where
`writes` holds of the paths that were written and the times at which this was done. Links stay as
they are, a directory stays a directory, and a file that no written path leads to stays the same.

**Results.**
* `Grows.trans`: growing is transitive.
* `Keeps.locate_of_ok`: a path that leads to a place goes on to lead to it.
* `Grows.timeOf_of_ok`: what stands at the end of a path keeps its time or gets that of a write.
* `Grows.lookup_of_unwritten`: a file that no written path leads to stays the same.
-/

namespace MessageCatalog
namespace FileTree

section Walk

variable {t : FileTree} {follow : Bool} {through : Place → List Text → Except FileCause Place}
  {here : Place} {name : Text} {rest : List Text} {time : Time} {target : Path}

theorem walkWith_nil : t.walkWith follow through here [] = .ok here := rfl

/-- A walk takes its first step by what stands at the place that it has come to. -/
theorem walkWith_cons_eq :
    t.walkWith follow through here (name :: rest) =
      match t.get? here with
      | some (.directory _) =>
          if name = ['.', '.'] then t.walkWith follow through here.dropLast rest
          else if maxNameLength < name.utf8.length then .error .nameTooLong
          else
            match t.get? (here ++ [name]) with
            | some (.link target) =>
                if rest.isEmpty && !follow then .ok (here ++ [name])
                else through (startOf here target) (target.names ++ rest)
            | _ => t.walkWith follow through (here ++ [name]) rest
      | some _ => .error .notDirectory
      | none => .error .notFound := rfl

theorem walkWith_up (hdir : t.get? here = some (.directory time)) :
    t.walkWith follow through here (['.', '.'] :: rest) =
      t.walkWith follow through here.dropLast rest := by
  rw [walkWith_cons_eq, hdir]
  simp

theorem walkWith_tooLong (hdir : t.get? here = some (.directory time)) (hup : name ≠ ['.', '.'])
    (hlong : maxNameLength < name.utf8.length) :
    t.walkWith follow through here (name :: rest) = .error .nameTooLong := by
  rw [walkWith_cons_eq, hdir]
  simp [hup, hlong]

theorem walkWith_lastLink (hdir : t.get? here = some (.directory time)) (hup : name ≠ ['.', '.'])
    (hlong : ¬ maxNameLength < name.utf8.length)
    (hlink : t.get? (here ++ [name]) = some (.link target))
    (hlast : (rest.isEmpty && !follow) = true) :
    t.walkWith follow through here (name :: rest) = .ok (here ++ [name]) := by
  rw [walkWith_cons_eq, hdir]
  simp only [hup, if_false, hlong, hlink, hlast, if_true]

theorem walkWith_link (hdir : t.get? here = some (.directory time)) (hup : name ≠ ['.', '.'])
    (hlong : ¬ maxNameLength < name.utf8.length)
    (hlink : t.get? (here ++ [name]) = some (.link target))
    (hlast : ¬ (rest.isEmpty && !follow) = true) :
    t.walkWith follow through here (name :: rest) =
      through (startOf here target) (target.names ++ rest) := by
  rw [walkWith_cons_eq, hdir]
  simp [hup, hlong, hlink, hlast]

theorem walkWith_name (hdir : t.get? here = some (.directory time)) (hup : name ≠ ['.', '.'])
    (hlong : ¬ maxNameLength < name.utf8.length)
    (hlink : ∀ target, t.get? (here ++ [name]) ≠ some (.link target)) :
    t.walkWith follow through here (name :: rest) =
      t.walkWith follow through (here ++ [name]) rest := by
  rw [walkWith_cons_eq, hdir]
  simp only [hup, if_false, hlong]

theorem walkWith_notDirectory {e : Entry} (he : t.get? here = some e)
    (hdir : ∀ time, e ≠ .directory time) :
    t.walkWith follow through here (name :: rest) = .error .notDirectory := by
  rw [walkWith_cons_eq, he]
  cases e with
  | file => rfl
  | directory time => exact absurd rfl (hdir time)
  | link => rfl

theorem walkWith_missing (hnone : t.get? here = none) :
    t.walkWith follow through here (name :: rest) = .error .notFound := by
  rw [walkWith_cons_eq, hnone]

end Walk

section Keeping

/-- Links stay as they are, directories stay directories and files stay files. -/
structure Keeps (t u : FileTree) : Prop where
  workingDirectory : u.workingDirectory = t.workingDirectory
  link : ∀ place target,
    u.get? place = some (.link target) ↔ t.get? place = some (.link target)
  directory : ∀ place time, t.get? place = some (.directory time) →
    ∃ time', u.get? place = some (.directory time')
  file : ∀ place content time writable, t.get? place = some (.file content time writable) →
    ∃ content' time' writable', u.get? place = some (.file content' time' writable')

namespace Keeps

variable {t u : FileTree}

/-- A walk that is not stopped by a missing name is the same in the later tree, if it is the same
behind each link. -/
theorem walkWith_eq (h : Keeps t u) (follow : Bool)
    {through through' : Place → List Text → Except FileCause Place}
    (hthrough : ∀ here names, through here names ≠ .error .notFound →
      through' here names = through here names)
    (here : Place) (names : List Text)
    (hne : t.walkWith follow through here names ≠ .error .notFound) :
    u.walkWith follow through' here names = t.walkWith follow through here names := by
  induction here, names using FileTree.walkWith.induct t follow with
  | case1 here => rw [walkWith_nil, walkWith_nil]
  | case2 here rest time hdir ih =>
      obtain ⟨time', hu⟩ := h.directory here time hdir
      rw [walkWith_up hdir] at hne ⊢
      rw [walkWith_up hu, ih hne]
  | case3 here name rest time hdir hup hlong =>
      obtain ⟨time', hu⟩ := h.directory here time hdir
      rw [walkWith_tooLong hdir hup hlong, walkWith_tooLong hu hup hlong]
  | case4 here name rest time hdir hup hlong target hlink hlast =>
      obtain ⟨time', hu⟩ := h.directory here time hdir
      have hlinku := (h.link (here ++ [name]) target).mpr hlink
      rw [walkWith_lastLink hdir hup hlong hlink hlast, walkWith_lastLink hu hup hlong hlinku hlast]
  | case5 here name rest time hdir hup hlong target hlink hlast =>
      obtain ⟨time', hu⟩ := h.directory here time hdir
      have hlinku := (h.link (here ++ [name]) target).mpr hlink
      rw [walkWith_link hdir hup hlong hlink hlast] at hne ⊢
      rw [walkWith_link hu hup hlong hlinku hlast, hthrough _ _ hne]
  | case6 here name rest time hdir hup hlong hlink ih =>
      obtain ⟨time', hu⟩ := h.directory here time hdir
      have hlinku : ∀ target, u.get? (here ++ [name]) ≠ some (.link target) :=
        fun target hu => hlink target ((h.link (here ++ [name]) target).mp hu)
      rw [walkWith_name hdir hup hlong hlink] at hne ⊢
      rw [walkWith_name hu hup hlong hlinku, ih hne]
  | case7 here name rest e hdir he =>
      rw [walkWith_notDirectory he hdir]
      cases e with
      | file content time writable =>
          obtain ⟨content', time', writable', hu⟩ := h.file here content time writable he
          exact walkWith_notDirectory hu (by simp)
      | directory time => exact absurd rfl (hdir time)
      | link target => exact walkWith_notDirectory ((h.link here target).mpr he) (by simp)
  | case8 here name rest hnone => exact absurd (walkWith_missing hnone) hne

/-- A walk that is not stopped by a missing name is the same in the later tree. -/
theorem walk_eq (h : Keeps t u) (follow : Bool) (links : Nat) (here : Place)
    (names : List Text) (hne : t.walk follow links here names ≠ .error .notFound) :
    u.walk follow links here names = t.walk follow links here names := by
  induction links generalizing here names with
  | zero => exact h.walkWith_eq follow (fun _ _ _ => rfl) here names hne
  | succ links ih => exact h.walkWith_eq follow ih here names hne

/-- A path that is not stopped by a missing name goes on to lead to the same place, or to fail for
the same reason. -/
theorem locate_eq (h : Keeps t u) (follow : Bool) (p : Path)
    (hne : t.locate follow p ≠ .error ⟨.notFound, p⟩) : u.locate follow p = t.locate follow p := by
  unfold locate at hne ⊢
  rw [h.workingDirectory]
  by_cases hnull : p.names.any (·.contains '\x00') = true
  · rw [if_pos hnull, if_pos hnull]
  · rw [if_neg hnull] at hne ⊢
    rw [if_neg hnull]
    by_cases hlong : maxPathLength < p.text.utf8.length
    · rw [if_pos hlong, if_pos hlong]
    · rw [if_neg hlong] at hne ⊢
      rw [if_neg hlong, h.walk_eq follow maxLinks _ p.names]
      intro hwalk
      rw [hwalk] at hne
      exact hne rfl

/-- A path that leads to a place goes on to lead to it. -/
theorem locate_of_ok (h : Keeps t u) {follow : Bool} {p : Path} {place : Place}
    (hp : t.locate follow p = .ok place) : u.locate follow p = .ok place := by
  rw [h.locate_eq follow p (by simp [hp]), hp]

end Keeps

end Keeping

section Growing

/-- The same file, or none, stands at the place in both trees. -/
def KeepsFile (place : Place) (t u : FileTree) : Prop :=
  ∀ content time writable, u.get? place = some (.file content time writable) ↔
    t.get? place = some (.file content time writable)

theorem KeepsFile.refl (place : Place) (t : FileTree) : KeepsFile place t t :=
  fun _ _ _ => Iff.rfl

theorem KeepsFile.trans {place : Place} {t u v : FileTree} (h : KeepsFile place t u)
    (h' : KeepsFile place u v) : KeepsFile place t v :=
  fun content time writable => (h' content time writable).trans (h content time writable)

/-- At the place stands a file as one of the writes left it. -/
def WrittenAt (writes : Path → Time → Prop) (u : FileTree) (place : Place) : Prop :=
  ∃ p content time, writes p time ∧ u.locate true p = .ok place ∧
    u.get? place = some (.file content time true)

/-- The tree `u` comes from `t` by writes of files. -/
structure Grows (writes : Path → Time → Prop) (t u : FileTree) : Prop where
  workingDirectory : u.workingDirectory = t.workingDirectory
  link : ∀ place target,
    u.get? place = some (.link target) ↔ t.get? place = some (.link target)
  directory : ∀ place time, t.get? place = some (.directory time) →
    ∃ time', u.get? place = some (.directory time') ∧ (time' = time ∨ ∃ p, writes p time')
  file : ∀ place content time writable, t.get? place = some (.file content time writable) →
    u.get? place = some (.file content time writable) ∨
      writable = true ∧ WrittenAt writes u place
  absent : ∀ place, t.get? place = none →
    u.get? place = none ∨ (∃ p time, writes p time ∧ u.get? place = some (.directory time)) ∨
      WrittenAt writes u place

namespace Grows

variable {writes writes' : Path → Time → Prop} {t u v : FileTree}

theorem refl (writes : Path → Time → Prop) (t : FileTree) : Grows writes t t where
  workingDirectory := rfl
  link := fun _ _ => Iff.rfl
  directory := fun _ time h => ⟨time, h, Or.inl rfl⟩
  file := fun _ _ _ _ h => Or.inl h
  absent := fun _ h => Or.inl h

theorem keeps (h : Grows writes t u) : Keeps t u where
  workingDirectory := h.workingDirectory
  link := h.link
  directory := by
    intro place time hdir
    obtain ⟨time', hu, -⟩ := h.directory place time hdir
    exact ⟨time', hu⟩
  file := by
    intro place content time writable hfile
    rcases h.file place content time writable hfile with hu | ⟨-, p, content', time', -, -, hu⟩
    · exact ⟨content, time, writable, hu⟩
    · exact ⟨content', time', true, hu⟩

/-- A path that leads to a place goes on to lead to it. -/
theorem locate_of_ok (h : Grows writes t u) {follow : Bool} {p : Path} {place : Place}
    (hp : t.locate follow p = .ok place) : u.locate follow p = .ok place :=
  h.keeps.locate_of_ok hp

/-- A place written to keeps a file that one of the writes left there. -/
theorem writtenAt (h : Grows writes' u v) {place : Place} (hu : WrittenAt writes u place) :
    WrittenAt writes v place ∨ WrittenAt writes' v place := by
  obtain ⟨p, content, time, hp, hplace, hfile⟩ := hu
  rcases h.file place content time true hfile with hv | ⟨-, hv⟩
  · exact Or.inl ⟨p, content, time, hp, h.locate_of_ok hplace, hv⟩
  · exact Or.inr hv

theorem mono (h : Grows writes t u) (hw : ∀ p time, writes p time → writes' p time) :
    Grows writes' t u where
  workingDirectory := h.workingDirectory
  link := h.link
  directory := by
    intro place time hdir
    obtain ⟨time', hu, htime⟩ := h.directory place time hdir
    exact ⟨time', hu, htime.imp_right fun ⟨p, hp⟩ => ⟨p, hw p time' hp⟩⟩
  file := by
    intro place content time writable hfile
    rcases h.file place content time writable hfile with hu | ⟨hwr, p, c, τ, hp, hrest⟩
    · exact Or.inl hu
    · exact Or.inr ⟨hwr, p, c, τ, hw p τ hp, hrest⟩
  absent := by
    intro place hnone
    rcases h.absent place hnone with hu | ⟨p, time, hp, hu⟩ | ⟨p, c, τ, hp, hrest⟩
    · exact Or.inl hu
    · exact Or.inr (Or.inl ⟨p, time, hw p time hp, hu⟩)
    · exact Or.inr (Or.inr ⟨p, c, τ, hw p τ hp, hrest⟩)

theorem trans (h : Grows writes t u) (h' : Grows writes u v) : Grows writes t v where
  workingDirectory := h'.workingDirectory.trans h.workingDirectory
  link := fun place target => (h'.link place target).trans (h.link place target)
  directory := by
    intro place time hdir
    obtain ⟨time₁, hu, htime₁⟩ := h.directory place time hdir
    obtain ⟨time₂, hv, htime₂⟩ := h'.directory place time₁ hu
    refine ⟨time₂, hv, ?_⟩
    rcases htime₂ with rfl | hw
    · exact htime₁
    · exact Or.inr hw
  file := by
    intro place content time writable hfile
    rcases h.file place content time writable hfile with hu | ⟨hwr, hu⟩
    · exact h'.file place content time writable hu
    · exact Or.inr ⟨hwr, (h'.writtenAt hu).elim id id⟩
  absent := by
    intro place hnone
    rcases h.absent place hnone with hu | ⟨p, time, hp, hu⟩ | hu
    · exact h'.absent place hu
    · obtain ⟨time', hv, htime⟩ := h'.directory place time hu
      rcases htime with rfl | ⟨p', hp'⟩
      · exact Or.inr (Or.inl ⟨p, time', hp, hv⟩)
      · exact Or.inr (Or.inl ⟨p', time', hp', hv⟩)
    · exact Or.inr (Or.inr ((h'.writtenAt hu).elim id id))

/-- What stands at the end of a path keeps its time or gets that of a write. -/
theorem timeOf_of_ok (h : Grows writes t u) {p : Path} {time : Time}
    (ht : t.timeOf p = .ok time) :
    ∃ time', u.timeOf p = .ok time' ∧ (time' = time ∨ ∃ q, writes q time') := by
  obtain ⟨e, he, rfl⟩ := timeOf_eq_ok.mp ht
  obtain ⟨place, hloc, hget⟩ := lookup_eq_ok.mp he
  have hlocu := h.locate_of_ok hloc
  cases e with
  | file content time writable =>
      rcases h.file place content time writable hget with hu | ⟨-, q, content', time', hq, -, hu⟩
      · exact ⟨time, timeOf_of_lookup (lookup_of_get? hlocu hu), Or.inl rfl⟩
      · exact ⟨time', timeOf_of_lookup (lookup_of_get? hlocu hu), Or.inr ⟨q, hq⟩⟩
  | directory time =>
      obtain ⟨time', hu, htime⟩ := h.directory place time hget
      exact ⟨time', timeOf_of_lookup (lookup_of_get? hlocu hu), htime⟩
  | link target =>
      have hu := (h.link place target).mpr hget
      exact ⟨0, timeOf_of_lookup (lookup_of_get? hlocu hu), Or.inl rfl⟩

/-- What is there stays there. -/
theorem has_of_true (h : Grows writes t u) {p : Path} (ht : t.has p = .ok true) :
    u.has p = .ok true := by
  obtain ⟨e, he⟩ := has_eq_true.mp ht
  obtain ⟨time, htime, -⟩ := h.timeOf_of_ok (timeOf_of_lookup he)
  obtain ⟨e', he', -⟩ := timeOf_eq_ok.mp htime
  exact has_of_lookup he'

/-- A file that may not be written stays the same. -/
theorem isReadOnly_of_true (h : Grows writes t u) {p : Path} (ht : t.isReadOnly p = .ok true) :
    u.isReadOnly p = .ok true := by
  obtain ⟨content, time, he⟩ := isReadOnly_eq_true.mp ht
  obtain ⟨place, hloc, hget⟩ := lookup_eq_ok.mp he
  rcases h.file place content time false hget with hu | ⟨hfalse, -⟩
  · exact isReadOnly_eq_true.mpr ⟨content, time, lookup_of_get? (h.locate_of_ok hloc) hu⟩
  · cases hfalse

/-- A file that no written path leads to stays the same. -/
theorem lookup_of_unwritten (h : Grows writes t u) {p : Path} {content : Bytes} {time : Time}
    {writable : Bool} (ht : t.lookup p = .ok (.file content time writable))
    (hw : ∀ q time', writes q time' → u.locate true q ≠ u.locate true p) :
    u.lookup p = .ok (.file content time writable) := by
  obtain ⟨place, hloc, hget⟩ := lookup_eq_ok.mp ht
  have hlocu := h.locate_of_ok hloc
  rcases h.file place content time writable hget with hu | ⟨-, q, content', time', hq, hlocq, -⟩
  · exact lookup_of_get? hlocu hu
  · exact absurd (hlocq.trans hlocu.symm) (hw q time' hq)

/-- A file that was not written to is the same before and after. -/
theorem keepsFile (h : Grows writes t u) {place : Place} (hwritten : ¬ WrittenAt writes u place) :
    KeepsFile place t u := by
  intro content time writable
  constructor
  · intro hu
    cases ht : t.get? place with
    | none =>
        rcases h.absent place ht with hnone | ⟨p, time', -, hdir⟩ | hw
        · rw [hnone] at hu
          cases hu
        · rw [hdir] at hu
          cases hu
        · exact absurd hw hwritten
    | some e =>
        cases e with
        | file content' time' writable' =>
            rcases h.file place content' time' writable' ht with hsame | ⟨-, hw⟩
            · rw [← hsame, hu]
            · exact absurd hw hwritten
        | directory time' =>
            obtain ⟨time'', hdir, -⟩ := h.directory place time' ht
            rw [hdir] at hu
            cases hu
        | link target =>
            rw [(h.link place target).mpr ht] at hu
            cases hu
  · intro ht
    rcases h.file place content time writable ht with hsame | ⟨-, hw⟩
    · exact hsame
    · exact absurd hw hwritten

/-- Paths that lead to the same entry go on to do so. -/
theorem sameEntry_of_true (h : Grows writes t u) {p q : Path}
    (ht : t.sameEntry p q = .ok true) : u.sameEntry p q = .ok true := by
  obtain ⟨place, e, hp, hq, hget⟩ := sameEntry_eq_true.mp ht
  obtain ⟨time', htime, -⟩ := h.timeOf_of_ok (timeOf_of_lookup (lookup_of_get? hp hget))
  obtain ⟨e', he', -⟩ := timeOf_eq_ok.mp htime
  obtain ⟨place', hp', hget'⟩ := lookup_eq_ok.mp he'
  have hpu := h.locate_of_ok hp
  rw [hp', Except.ok.injEq] at hpu
  subst hpu
  exact sameEntry_eq_true.mpr ⟨place', e', hp', h.locate_of_ok hq, hget'⟩

end Grows

end Growing

end FileTree
end MessageCatalog
