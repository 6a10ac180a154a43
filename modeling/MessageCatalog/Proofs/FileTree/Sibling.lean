import Mathlib.Tactic.Common
import MessageCatalog.Proofs.FileTree.Growth
import MessageCatalog.Proofs.Text.Part

/-!
# Files that stand next to each other

Two paths that differ in their last names only lead into the same directory, whatever links there are
on the way to it. Where a path leads is therefore its last name in that directory, unless the last
name is that of a link. A place that no link leads to is reached by paths with its own last name
only, and nothing that is written under other names changes what stands there.

**Results.**
* `Path.ofText_append`: the path of a spelling, by the directory part and the last name of it.
* `locate_child`: a path that leads somewhere, and what becomes of those with another last name.
* `Unlinked`: no link leads to a place; `Unlinked.of_keeps`, `IsLinkFree.unlinked`.
* `Grows.keepsFile_of_avoids`: writes under other names do not come to such a place.
-/

namespace MessageCatalog

namespace Text

theorem getLast?_append_of_eq {suffix : Text} {c : Char} (h : suffix.getLast? = some c)
    (t : Text) : (t ++ suffix).getLast? = some c := by
  rw [List.getLast?_append, h]
  rfl

theorem ne_of_getLast? {t u : Text} {c d : Char} (ht : t.getLast? = some c)
    (hu : u.getLast? = some d) (hne : c ≠ d) : t ≠ u := by
  rintro rfl
  rw [ht] at hu
  exact hne (Option.some.inj hu)

end Text

namespace Path

/-- The path that goes on to one more name. -/
def child (p : Path) (name : Text) : Path :=
  { p with names := p.names ++ [name] }

theorem child_injective {p q : Path} {name other : Text} (h : p.child name = q.child other) :
    name = other := by
  have hnames := congrArg Path.names h
  exact (List.append_singleton_inj.mp hnames).2

/-- The path of the directory part of a spelling. -/
def folder (t : Text) : Path where
  start := .ofText t
  names := (t.splitOn '/').dropLast.filter isName

/-- What stands behind the last slash of a spelling. -/
def lastName (t : Text) : Text :=
  (t.splitOn '/').getLastD []

theorem div_child (p q : Path) (name : Text) : p / q.child name = (p / q).child name := by
  show append p (q.child name) = (append p q).child name
  unfold append
  rcases q with ⟨_ | _ | _, names⟩
  · simp [child]
  · rfl
  · rfl

/-- What is appended to a spelling does not change its start, unless it begins with a slash. -/
theorem start_ofText_append (t : Text) {suffix : Text} (h : '/' ∉ suffix) :
    Start.ofText (t ++ suffix) = Start.ofText t := by
  cases suffix with
  | nil => rw [List.append_nil]
  | cons d rest =>
      have hd : d ≠ '/' := by
        rintro rfl
        exact h List.mem_cons_self
      rcases t with _ | ⟨a, _ | ⟨b, _ | ⟨c, t⟩⟩⟩
      · simp [Start.ofText, hd]
      · by_cases ha : a = '/'
        · simp [Start.ofText, ha, hd]
        · simp [Start.ofText, ha]
      · by_cases ha : a = '/'
        · by_cases hb : b = '/'
          · simp [Start.ofText, ha, hb, hd]
          · simp [Start.ofText, ha, hb]
        · simp [Start.ofText, ha]
      · by_cases ha : a = '/'
        · by_cases hb : b = '/'
          · by_cases hc : c = '/'
            · simp [Start.ofText, ha, hb, hc]
            · simp [Start.ofText, ha, hb, hc]
          · simp [Start.ofText, ha, hb]
        · simp [Start.ofText, ha]

/-- A name with a suffix of two characters or more is part of the path. -/
theorem isName_append (t : Text) {suffix : Text} (h : 2 ≤ suffix.length) :
    isName (t ++ suffix) = true := by
  have hlength : 2 ≤ (t ++ suffix).length := by
    rw [List.length_append]
    omega
  unfold isName
  rw [Bool.and_eq_true, decide_eq_true_iff, decide_eq_true_iff]
  constructor
  · intro hnil
    rw [hnil] at hlength
    exact absurd hlength (by decide)
  · intro hdot
    rw [hdot] at hlength
    exact absurd hlength (by decide)

/-- The path of a spelling with a suffix. -/
theorem ofText_append (t : Text) {suffix : Text} (hslash : '/' ∉ suffix)
    (hlength : 2 ≤ suffix.length) :
    ofText (t ++ suffix) = (folder t).child (lastName t ++ suffix) := by
  obtain ⟨parts, last, ht, happend⟩ := Text.splitOn_append '/' t
  unfold ofText folder lastName child
  rw [happend suffix hslash, ht, start_ofText_append t hslash, List.filter_append,
    List.filter_cons_of_pos (isName_append last hlength)]
  simp

end Path

namespace FileTree

/-- A name that leads down, not back to the directory above. -/
def LeadsDown (name : Text) : Prop :=
  name ≠ ['.', '.']

theorem leadsDown_of_getLast? {name : Text} {c : Char} (h : name.getLast? = some c)
    (hdot : c ≠ '.') : LeadsDown name :=
  Text.ne_of_getLast? (u := ['.', '.']) h rfl hdot

/-- Where a last name leads from a directory, unless it is that of a link to be followed. -/
def below (dir : Place) (name : Text) : Except FileCause Place :=
  if maxNameLength < name.utf8.length then .error .nameTooLong else .ok (dir ++ [name])

/-- How a walk that comes to an end goes on from its first name. -/
inductive StepsTo (t : FileTree) (follow : Bool)
    (through : Place → List Text → Except FileCause Place) (here : Place) (name : Text)
    (rest : List Text) (place : Place) : Prop
  | up (hup : name = ['.', '.'])
      (h : t.walkWith follow through here.dropLast rest = .ok place)
  | lastLink {target : Path} (hdown : LeadsDown name) (hshort : ¬ maxNameLength < name.utf8.length)
      (hlink : t.get? (here ++ [name]) = some (.link target))
      (hlast : (rest.isEmpty && !follow) = true) (hplace : place = here ++ [name])
  | link {target : Path} (hdown : LeadsDown name) (hshort : ¬ maxNameLength < name.utf8.length)
      (hlink : t.get? (here ++ [name]) = some (.link target))
      (hlast : ¬ (rest.isEmpty && !follow) = true)
      (h : through (startOf here target) (target.names ++ rest) = .ok place)
  | down (hdown : LeadsDown name) (hshort : ¬ maxNameLength < name.utf8.length)
      (hlink : ∀ target, t.get? (here ++ [name]) ≠ some (.link target))
      (h : t.walkWith follow through (here ++ [name]) rest = .ok place)

section Walk

variable {t u : FileTree}

theorem walkWith_cons_eq_ok {follow : Bool}
    {through : Place → List Text → Except FileCause Place} {here place : Place} {name : Text}
    {rest : List Text} (h : t.walkWith follow through here (name :: rest) = .ok place) :
    (∃ time, t.get? here = some (.directory time)) ∧
      t.StepsTo follow through here name rest place := by
  cases hhere : t.get? here with
  | none =>
      rw [walkWith_missing hhere] at h
      cases h
  | some e =>
      by_cases hdir : ∃ time, e = .directory time
      · obtain ⟨time, rfl⟩ := hdir
        refine ⟨⟨time, rfl⟩, ?_⟩
        by_cases hup : name = ['.', '.']
        · subst hup
          rw [walkWith_up hhere] at h
          exact .up rfl h
        · by_cases hlong : maxNameLength < name.utf8.length
          · rw [walkWith_tooLong hhere hup hlong] at h
            cases h
          · by_cases hlink : ∃ target, t.get? (here ++ [name]) = some (.link target)
            · obtain ⟨target, hlink⟩ := hlink
              by_cases hlast : (rest.isEmpty && !follow) = true
              · rw [walkWith_lastLink hhere hup hlong hlink hlast] at h
                cases h
                exact .lastLink hup hlong hlink hlast rfl
              · rw [walkWith_link hhere hup hlong hlink hlast] at h
                exact .link hup hlong hlink hlast h
            · have hnone := not_exists.mp hlink
              rw [walkWith_name hhere hup hlong hnone] at h
              exact .down hup hlong hnone h
      · rw [walkWith_notDirectory hhere fun time htime => hdir ⟨time, htime⟩] at h
        cases h

end Walk

/-- The names lead into a directory, where each last name behind them leads from there. The walk may
or may not follow a link at its end. -/
structure Enters (t : FileTree) (walk : Bool → List Text → Except FileCause Place)
    (names : List Text) (dir : Place) : Prop where
  directory : ∃ time, t.get? dir = some (.directory time)
  last : ∀ follow name, LeadsDown name →
    (follow = false ∨ ∀ target, t.get? (dir ++ [name]) ≠ some (.link target)) →
    walk follow (names ++ [name]) = below dir name

section Walk

variable {t : FileTree} {here place : Place} {names : List Text} {name : Text}

/-- A last name leads from the directory that has been entered. -/
theorem walkWith_last {follow : Bool} {through : Place → List Text → Except FileCause Place}
    (hdir : ∃ time, t.get? here = some (.directory time)) (hname : LeadsDown name)
    (hlink : follow = false ∨ ∀ target, t.get? (here ++ [name]) ≠ some (.link target)) :
    t.walkWith follow through here [name] = below here name := by
  obtain ⟨time, hdir⟩ := hdir
  unfold below
  by_cases hlong : maxNameLength < name.utf8.length
  · rw [if_pos hlong, walkWith_tooLong hdir hname hlong]
  · rw [if_neg hlong]
    by_cases hnone : ∀ target, t.get? (here ++ [name]) ≠ some (.link target)
    · rw [walkWith_name hdir hname hlong hnone, walkWith_nil]
    · obtain ⟨target, hnone⟩ := not_forall.mp hnone
      have hfollow := hlink.resolve_right fun h => hnone (h target)
      exact walkWith_lastLink hdir hname hlong (not_not.mp hnone) (by rw [hfollow]; rfl)

/-- A walk that comes to an end has entered a directory before its last name. -/
theorem walkWith_enters (through : Bool → Place → List Text → Except FileCause Place)
    (hthrough : ∀ here place names name, LeadsDown name →
      through false here (names ++ [name]) = .ok place →
      ∃ dir, place = dir ++ [name] ∧ t.Enters (fun follow => through follow here) names dir)
    (hname : LeadsDown name)
    (h : t.walkWith false (through false) here (names ++ [name]) = .ok place) :
    ∃ dir, place = dir ++ [name] ∧
      t.Enters (fun follow => t.walkWith follow (through follow) here) names dir := by
  induction names generalizing here with
  | nil =>
      obtain ⟨hdir, hsteps⟩ := walkWith_cons_eq_ok h
      refine ⟨here, ?_, hdir, fun follow name => walkWith_last hdir⟩
      cases hsteps with
      | up hup => exact absurd hup hname
      | lastLink _ _ _ _ hplace => exact hplace
      | link _ _ _ hlast => exact absurd rfl hlast
      | down _ _ _ h =>
          rw [walkWith_nil] at h
          cases h
          rfl
  | cons first rest ih =>
      rw [List.cons_append] at h
      obtain ⟨⟨time, hdir⟩, hsteps⟩ := walkWith_cons_eq_ok h
      have hmore : ∀ (follow : Bool) (name : Text), ¬ ((rest ++ [name]).isEmpty && !follow) = true := by
        simp
      cases hsteps with
      | up hup hrest =>
          obtain ⟨dir, hplace, henters⟩ := ih hrest
          refine ⟨dir, hplace, henters.directory, fun follow name hname hlink => ?_⟩
          rw [List.cons_append, hup, walkWith_up hdir]
          exact henters.last follow name hname hlink
      | lastLink _ _ _ hlast => exact absurd hlast (hmore false name)
      | @link target hdown hshort hlink hlast hrest =>
          rw [← List.append_assoc] at hrest
          obtain ⟨dir, hplace, henters⟩ := hthrough _ _ _ _ hname hrest
          refine ⟨dir, hplace, henters.directory, fun follow name hname hnolink => ?_⟩
          rw [List.cons_append, walkWith_link hdir hdown hshort hlink (hmore follow name),
            ← List.append_assoc]
          exact henters.last follow name hname hnolink
      | down hdown hshort hlink hrest =>
          obtain ⟨dir, hplace, henters⟩ := ih hrest
          refine ⟨dir, hplace, henters.directory, fun follow name hname hnolink => ?_⟩
          rw [List.cons_append, walkWith_name hdir hdown hshort hlink]
          exact henters.last follow name hname hnolink

theorem walk_enters (links : Nat) (hname : LeadsDown name)
    (h : t.walk false links here (names ++ [name]) = .ok place) :
    ∃ dir, place = dir ++ [name] ∧
      t.Enters (fun follow => t.walk follow links here) names dir := by
  induction links generalizing here place names name with
  | zero =>
      exact walkWith_enters (fun _ _ _ => .error .tooManyLinks) (fun _ _ _ _ _ h => by cases h)
        hname h
  | succ links ih =>
      exact walkWith_enters (fun follow => t.walk follow links) (fun _ _ _ _ hname h => ih hname h)
        hname h

end Walk

section Locate

variable {t u : FileTree} {p q : Path} {place : Place} {name : Text}

/-- A path that is not refused as such leads where its names lead. -/
theorem locate_cases (t : FileTree) (follow : Bool) (p : Path) :
    (∃ cause, cause ≠ .notFound ∧ t.locate follow p = .error ⟨cause, p⟩) ∨
      t.locate follow p =
        (t.walk follow maxLinks (startOf t.workingDirectory p) p.names).mapError (⟨·, p⟩) := by
  unfold locate
  by_cases hnull : p.names.any (·.contains '\x00') = true
  · exact .inl ⟨.nullCharacter, by decide, by rw [if_pos hnull]⟩
  · by_cases hlong : maxPathLength < p.text.utf8.length
    · exact .inl ⟨.nameTooLong, by decide, by rw [if_neg hnull, if_pos hlong]⟩
    · refine .inr ?_
      rw [if_neg hnull, if_neg hlong]
      cases t.walk follow maxLinks (startOf t.workingDirectory p) p.names with
      | ok place => rfl
      | error cause => rfl

theorem walk_of_locate {follow : Bool} (h : t.locate follow p = .ok place) :
    t.walk follow maxLinks (startOf t.workingDirectory p) p.names = .ok place := by
  rcases locate_cases t follow p with ⟨cause, -, herror⟩ | hwalk
  · rw [herror] at h
    cases h
  · rw [hwalk] at h
    cases hplace : t.walk follow maxLinks (startOf t.workingDirectory p) p.names with
    | ok place' =>
        rw [hplace] at h
        cases h
        rfl
    | error cause =>
        rw [hplace] at h
        cases h

/-- A path leads to its last name in the directory that the names before it lead into, and so does
any path with another last name, unless it is refused for something else than a missing name. -/
theorem locate_child (hname : LeadsDown name) (h : t.locate false (q.child name) = .ok place) :
    ∃ dir, place = dir ++ [name] ∧ ∀ follow other, LeadsDown other →
      (follow = false ∨ ∀ target, t.get? (dir ++ [other]) ≠ some (.link target)) →
      t.locate follow (q.child other) = .ok (dir ++ [other]) ∨
        ∃ cause, cause ≠ .notFound ∧
          t.locate follow (q.child other) = .error ⟨cause, q.child other⟩ := by
  obtain ⟨dir, hplace, henters⟩ := walk_enters maxLinks hname (walk_of_locate h)
  refine ⟨dir, hplace, fun follow other hother hlink => ?_⟩
  rcases locate_cases t follow (q.child other) with hrefused | hwalk
  · exact .inr hrefused
  · have hlast := henters.last follow other hother hlink
    rw [hwalk]
    unfold below at hlast
    by_cases hlong : maxNameLength < other.utf8.length
    · rw [if_pos hlong] at hlast
      exact .inr ⟨.nameTooLong, by decide, congrArg (Except.mapError _) hlast⟩
    · rw [if_neg hlong] at hlast
      exact .inl (congrArg (Except.mapError _) hlast)

/-- No link leads to the place: a path that leads there does so without a link at its end. -/
def Unlinked (t : FileTree) (place : Place) : Prop :=
  ∀ p, t.locate true p = .ok place → t.locate false p = .ok place

/-- There are no links in the tree. -/
def IsLinkFree (t : FileTree) : Prop :=
  ∀ place target, t.get? place ≠ some (.link target)

/-- The entry is a link. -/
def Entry.isLink : Entry → Bool
  | .link _ => true
  | _ => false

theorem isLinkFree_of_entries (h : ∀ e ∈ t.entries, e.2.isLink = false) : IsLinkFree t := by
  intro place target hget
  unfold get? at hget
  cases hlookup : t.entries.lookup place with
  | some e =>
      rw [hlookup] at hget
      cases hget
      obtain ⟨before, after, hentries, -⟩ := List.lookup_eq_some_iff.mp hlookup
      have hlink := h (place, .link target)
        (hentries ▸ List.mem_append_right _ List.mem_cons_self)
      cases hlink
  | none =>
      rw [hlookup] at hget
      by_cases hroot : place.isEmpty = true
      · rw [if_pos hroot] at hget
        cases hget
      · rw [if_neg hroot] at hget
        cases hget

/-- A walk through links to its end finds the names before the last one all the same. -/
theorem walkWith_ne_notFound {through through' : Place → List Text → Except FileCause Place}
    (hthrough : ∀ here names place, through here names = .ok place →
      through' here names ≠ .error .notFound)
    {here : Place} {names : List Text} (h : t.walkWith true through here names = .ok place) :
    t.walkWith false through' here names ≠ .error .notFound := by
  induction names generalizing here with
  | nil => simp [walkWith_nil]
  | cons first rest ih =>
      obtain ⟨⟨time, hdir⟩, hsteps⟩ := walkWith_cons_eq_ok h
      cases hsteps with
      | up hup hrest =>
          rw [hup, walkWith_up hdir]
          exact ih hrest
      | lastLink _ _ _ hlast => simp at hlast
      | link hdown hshort hlink _ hrest =>
          by_cases hlast : (rest.isEmpty && !false) = true
          · simp [walkWith_lastLink hdir hdown hshort hlink hlast]
          · rw [walkWith_link hdir hdown hshort hlink hlast]
            exact hthrough _ _ _ hrest
      | down hdown hshort hlink hrest =>
          rw [walkWith_name hdir hdown hshort hlink]
          exact ih hrest

theorem walk_ne_notFound (links : Nat) {here : Place} {names : List Text}
    (h : t.walk true links here names = .ok place) :
    t.walk false links here names ≠ .error .notFound := by
  induction links generalizing here names place with
  | zero => exact walkWith_ne_notFound (fun _ _ _ h => by cases h) h
  | succ links ih => exact walkWith_ne_notFound (fun _ _ _ h => ih h) h

theorem locate_false_ne_notFound (h : t.locate true p = .ok place) :
    t.locate false p ≠ .error ⟨.notFound, p⟩ := by
  rcases locate_cases t false p with ⟨cause, hcause, herror⟩ | hwalk
  · rw [herror]
    simpa using hcause
  · rw [hwalk]
    intro herror
    refine walk_ne_notFound maxLinks (walk_of_locate h) ?_
    cases hplace : t.walk false maxLinks (startOf t.workingDirectory p) p.names with
    | ok place' =>
        rw [hplace] at herror
        cases herror
    | error cause =>
        rw [hplace] at herror
        cases herror
        rfl

/-- A place that no link leads to in the later tree was one in the earlier tree. -/
theorem Unlinked.of_keeps (h : Keeps t u) (hu : Unlinked u place) : Unlinked t place := by
  intro p hp
  rw [← h.locate_eq false p (locate_false_ne_notFound hp)]
  exact hu p (h.locate_of_ok hp)

theorem IsLinkFree.of_keeps (h : Keeps t u) (ht : IsLinkFree t) : IsLinkFree u :=
  fun place target hu => ht place target ((h.link place target).mp hu)

theorem IsLinkFree.walkWith_eq (h : IsLinkFree t) (follow follow' : Bool)
    (through through' : Place → List Text → Except FileCause Place) (here : Place)
    (names : List Text) :
    t.walkWith follow through here names = t.walkWith follow' through' here names := by
  induction here, names using FileTree.walkWith.induct t follow with
  | case1 here => rw [walkWith_nil, walkWith_nil]
  | case2 here rest time hdir ih => rw [walkWith_up hdir, walkWith_up hdir, ih]
  | case3 here name rest time hdir hup hlong =>
      rw [walkWith_tooLong hdir hup hlong, walkWith_tooLong hdir hup hlong]
  | case4 here name rest time hdir hup hlong target hlink => exact absurd hlink (h _ target)
  | case5 here name rest time hdir hup hlong target hlink => exact absurd hlink (h _ target)
  | case6 here name rest time hdir hup hlong hlink ih =>
      rw [walkWith_name hdir hup hlong hlink, walkWith_name hdir hup hlong hlink, ih]
  | case7 here name rest e hdir he =>
      rw [walkWith_notDirectory he hdir, walkWith_notDirectory he hdir]
  | case8 here name rest hnone => rw [walkWith_missing hnone, walkWith_missing hnone]

theorem IsLinkFree.walk_eq (h : IsLinkFree t) (follow follow' : Bool) (links : Nat) (here : Place)
    (names : List Text) : t.walk follow links here names = t.walk follow' links here names := by
  cases links with
  | zero => exact h.walkWith_eq follow follow' _ _ here names
  | succ links => exact h.walkWith_eq follow follow' _ _ here names

/-- Without links it makes no difference whether links are followed. -/
theorem IsLinkFree.locate_eq (h : IsLinkFree t) (follow follow' : Bool) (p : Path) :
    t.locate follow p = t.locate follow' p := by
  unfold locate
  rw [h.walk_eq follow follow']

theorem IsLinkFree.unlinked (h : IsLinkFree t) (place : Place) : Unlinked t place :=
  fun p hp => (h.locate_eq false true p).trans hp

/-- A path that leads to a place that no link leads to has the last name of the place. -/
theorem Unlinked.exists_eq (h : Unlinked t place) (hname : LeadsDown name)
    (hp : t.locate true (q.child name) = .ok place) : ∃ dir, place = dir ++ [name] := by
  obtain ⟨dir, hplace, -⟩ := locate_child hname (h _ hp)
  exact ⟨dir, hplace⟩

/-- A path that leads to a place that no link leads to has the last name of the place, and a path with
another last name leads to that name next to it, if it leads anywhere and not through a link. -/
theorem Unlinked.locate_sibling {dir : Place} {last other : Text} (h : Unlinked t (dir ++ [last]))
    (hname : LeadsDown name) (hp : t.locate true (q.child name) = .ok (dir ++ [last]))
    (hother : LeadsDown other) (hlink : ∀ target, t.get? (dir ++ [other]) ≠ some (.link target))
    (hq : t.locate true (q.child other) = .ok place) :
    last = name ∧ place = dir ++ [other] := by
  obtain ⟨dir', heq, hsiblings⟩ := locate_child hname (h _ hp)
  obtain ⟨rfl, hlast⟩ := List.append_singleton_inj.mp heq
  refine ⟨hlast, ?_⟩
  rcases hsiblings true other hother (.inr hlink) with hplace | ⟨cause, -, herror⟩
  · exact Except.ok.inj (hq.symm.trans hplace)
  · rw [herror] at hq
    cases hq

end Locate

/-- The path has another last name than the given one. -/
def Avoids (name : Text) (p : Path) : Prop :=
  ∃ q other, p = Path.child q other ∧ LeadsDown other ∧ other ≠ name

/-- A path whose last name ends otherwise. -/
theorem avoids_of_suffix {name suffix : Text} {p : Path} {c d : Char}
    (hname : name.getLast? = some d) (hp : ∃ (q : Path) (t : Text), p = q.child (t ++ suffix))
    (hsuffix : suffix.getLast? = some c) (hdot : c ≠ '.') (hne : c ≠ d) : Avoids name p := by
  obtain ⟨q, t, rfl⟩ := hp
  have hlast := Text.getLast?_append_of_eq hsuffix t
  exact ⟨q, _, rfl, leadsDown_of_getLast? hlast hdot, Text.ne_of_getLast? hlast hname hne⟩

section Avoids

variable {t u : FileTree} {dir : Place} {name : Text} {p : Path}

/-- A path with another last name does not lead to a place that no link leads to. -/
theorem Unlinked.locate_ne (h : Unlinked t (dir ++ [name])) (hp : Avoids name p) :
    t.locate true p ≠ .ok (dir ++ [name]) := by
  obtain ⟨q, other, rfl, hdown, hother⟩ := hp
  intro hplace
  obtain ⟨dir', heq⟩ := h.exists_eq hdown hplace
  exact hother (List.append_singleton_inj.mp heq).2.symm

/-- Writes to paths with other last names keep the file at a place that no link leads to. -/
theorem Grows.keepsFile_of_avoids {writes : Path → Time → Prop} (h : Grows writes t u)
    (hunlinked : Unlinked u (dir ++ [name])) (hwrites : ∀ p time, writes p time → Avoids name p) :
    KeepsFile (dir ++ [name]) t u := by
  refine h.keepsFile ?_
  rintro ⟨p, content, time, hp, hplace, -⟩
  exact hunlinked.locate_ne (hwrites p time hp) hplace

end Avoids

end FileTree

end MessageCatalog
