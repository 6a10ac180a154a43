import MessageCatalog.Locale.FileName
import MessageCatalog.Proofs.Locale.Identifier
import Mathlib.Data.List.TakeWhile

/-!
# Locale boundaries in file names

The locale in a file name begins behind the first underscore of the name that has an identifier
behind it. Two readings of a path use this boundary with different care: the path without its locale
ends there wherever the underscore stands, and a locale is derived only if the underscore is the
first of the name and something stands in front of it. The directories in front of the name and the
suffix behind it have no part in either.

**Results.**
* `Text.HasParts`, `Text.hasParts_withoutEnding`: directory, name and suffix of a path.
* `Locale.IsBoundary`, `Locale.boundary_cases`: where the scan of a name stops.
* `Locale.IsBoundary.eq_of_not_mem`: a boundary at the first underscore is the one that is found.
* `Locale.IsRead`, `Locale.exists_isRead`: both readings of a path, in terms of its parts.
-/

namespace MessageCatalog

namespace Text

variable {path suffix t : Text}

/-- The parts of a path: directories up to a slash, a name without slashes, and the suffix unless
the path does not end with it. -/
structure HasParts (path suffix directory name : Text) : Prop where
  path_eq : path = directory ++ name ++ suffix ∨ ¬ suffix <:+ path ∧ path = directory ++ name
  directory : directory = [] ∨
    ∃ before slash, directory = before ++ [slash] ∧ isSlash slash = true
  name : ∀ c ∈ name, isSlash c = false

theorem withoutEnding_cases (path suffix : Text) :
    path = path.withoutEnding suffix ++ suffix ∨
      ¬ suffix <:+ path ∧ path = path.withoutEnding suffix := by
  unfold withoutEnding endsWith
  by_cases h : suffix <:+ path
  · rw [if_pos (List.isSuffixOf_iff_suffix.mpr h)]
    obtain ⟨stem, rfl⟩ := h
    rw [List.length_append, Nat.add_sub_cancel, List.take_left]
    exact .inl rfl
  · rw [if_neg (mt List.isSuffixOf_iff_suffix.mp h)]
    exact .inr ⟨h, rfl⟩

theorem directoryPart_cases (path : Text) :
    path.directoryPart = [] ∨
      ∃ before slash, path.directoryPart = before ++ [slash] ∧ isSlash slash = true := by
  unfold directoryPart dropTrailing
  have hfirst := List.head?_dropWhile_not (fun c => !isSlash c) path.reverse
  cases hdrop : path.reverse.dropWhile fun c => !isSlash c with
  | nil => exact .inl rfl
  | cons slash before =>
      rw [hdrop] at hfirst
      exact .inr ⟨before.reverse, slash, List.reverse_cons, by simpa using hfirst⟩

theorem isSlash_of_mem_namePart {c : Char} (h : c ∈ path.namePart) : isSlash c = false := by
  unfold namePart at h
  simpa using List.mem_takeWhile_imp (List.mem_reverse.mp h)

theorem hasParts_withoutEnding (path suffix : Text) :
    HasParts path suffix (path.withoutEnding suffix).directoryPart
      (path.withoutEnding suffix).namePart := by
  refine ⟨?_, directoryPart_cases _, fun c => isSlash_of_mem_namePart⟩
  rw [directoryPart_append_namePart]
  exact withoutEnding_cases path suffix

end Text

namespace Locale

variable {name before identifier path suffix : Text} {l : Locale}

theorem parse?_eq_some_iff : parse? identifier = some l ↔ parse identifier = .ok l := by
  unfold parse?
  cases parse identifier <;> simp [Except.toOption]

/-- No identifier stands behind an underscore with less than the given number of characters before
it. -/
def NoneWithin (name : Text) (n : Nat) : Prop :=
  ∀ before rest, name = before ++ '_' :: rest → before.length < n → ∀ l, parse rest ≠ .ok l

theorem noneWithin_zero (name : Text) : NoneWithin name 0 :=
  fun _ _ _ hlength => absurd hlength (Nat.not_lt_zero _)

theorem NoneWithin.cons {c : Char} {n : Nat} (hfirst : c = '_' → ∀ l, parse name ≠ .ok l)
    (hname : NoneWithin name n) : NoneWithin (c :: name) (n + 1) := by
  intro before rest hsplit hlength
  cases before with
  | nil =>
      obtain ⟨rfl, rfl⟩ := List.cons.inj hsplit
      exact hfirst rfl
  | cons d before =>
      have hrest : name = before ++ '_' :: rest := (List.cons.inj hsplit).2
      exact hname before rest hrest (Nat.lt_of_succ_lt_succ hlength)

/-- A name in which no underscore has an identifier behind it. -/
theorem NoneWithin.parse_ne {rest : Text} (h : NoneWithin name name.length)
    (hname : name = before ++ '_' :: rest) (l : Locale) : parse rest ≠ .ok l := by
  refine h before rest hname ?_ l
  rw [hname, List.length_append, List.length_cons]
  omega

/-- The identifier of the locale stands behind the first underscore of the name that has an
identifier behind it. -/
structure IsBoundary (name before identifier : Text) (l : Locale) : Prop where
  name_eq : name = before ++ '_' :: identifier
  parse_eq : parse identifier = .ok l
  first : NoneWithin name before.length

theorem boundary_cons_of_parse {rest : Text} (h : parse rest = .ok l) :
    boundary ('_' :: rest) = some ([], l) := by
  rw [boundary, if_pos rfl, parse?_eq_some_iff.mpr h]

theorem boundary_cons_of_not {c : Char} {rest : Text} (h : c = '_' → ∀ l, parse rest ≠ .ok l) :
    boundary (c :: rest) = (boundary rest).map fun (before, l) => (c :: before, l) := by
  have hnone : (if c = '_' then parse? rest else none) = none := by
    rw [ite_eq_right_iff, Option.eq_none_iff_forall_ne_some]
    exact fun hc l hl => h hc l (parse?_eq_some_iff.mp hl)
  rw [boundary, hnone]

/-- The scan skips every underscore without an identifier behind it and stops at the first other
one. -/
theorem boundary_cases (name : Text) :
    boundary name = none ∧ NoneWithin name name.length ∨
      ∃ before identifier l, boundary name = some (before, l) ∧
        IsBoundary name before identifier l := by
  induction name with
  | nil => exact .inl ⟨rfl, noneWithin_zero []⟩
  | cons c rest ih =>
      by_cases hfirst : c = '_' ∧ ∃ l, parse rest = .ok l
      · obtain ⟨rfl, l, hl⟩ := hfirst
        exact .inr ⟨[], rest, l, boundary_cons_of_parse hl, rfl, hl, noneWithin_zero _⟩
      · have hskip : c = '_' → ∀ l, parse rest ≠ .ok l := fun hc l hl => hfirst ⟨hc, l, hl⟩
        rw [boundary_cons_of_not hskip]
        rcases ih with ⟨hnone, hname⟩ | ⟨before, identifier, l, hsome, hname⟩
        · exact .inl ⟨by rw [hnone]; rfl, hname.cons hskip⟩
        · refine .inr ⟨c :: before, identifier, l, by rw [hsome]; rfl, ?_, hname.parse_eq, ?_⟩
          · rw [hname.name_eq, List.cons_append]
          · exact hname.first.cons hskip

/-- If an identifier stands behind the first underscore of all, the boundary is there. -/
theorem IsBoundary.eq_of_not_mem {first rest : Text} {l' : Locale}
    (h : IsBoundary name before identifier l) (hname : name = first ++ '_' :: rest)
    (hlow : '_' ∉ first) (hrest : parse rest = .ok l') : before = first ∧ identifier = rest := by
  -- either boundary may stand behind the other one, by the text between them
  rcases List.append_eq_append_iff.mp (h.name_eq.symm.trans hname) with
    ⟨between, rfl, hbetween⟩ | ⟨between, rfl, hbetween⟩
  · cases between with
    | nil => exact ⟨(List.append_nil _).symm, (List.cons.inj hbetween).2⟩
    | cons c between =>
        obtain rfl := (List.cons.inj hbetween).1
        exact absurd (List.mem_append_right _ List.mem_cons_self) hlow
  · cases between with
    | nil => exact ⟨List.append_nil _, (List.cons.inj hbetween).2.symm⟩
    | cons c between =>
        refine absurd hrest (h.first first rest hname ?_ l')
        rw [List.length_append, List.length_cons]
        omega

theorem boundary_of_parse (hlow : '_' ∉ before) (h : parse identifier = .ok l) :
    boundary (before ++ '_' :: identifier) = some (before, l) := by
  rcases boundary_cases (before ++ '_' :: identifier) with
    ⟨-, hname⟩ | ⟨first, rest, l', hsome, hname⟩
  · exact absurd h (hname.parse_ne rfl l)
  · obtain ⟨rfl, rfl⟩ := hname.eq_of_not_mem rfl hlow h
    obtain rfl : l' = l := Except.ok.inj (hname.parse_eq.symm.trans h)
    exact hsome

theorem IsBoundary.ne_name (h : IsBoundary name before identifier l) : before ≠ name := by
  intro heq
  have hlength := congrArg List.length (heq.trans h.name_eq)
  rw [List.length_append, List.length_cons] at hlength
  omega

theorem ofFileName_eq_some_iff :
    ofFileName path suffix = some l ↔
      ∃ before identifier, (path.withoutEnding suffix).namePart = before ++ '_' :: identifier ∧
        before ≠ [] ∧ '_' ∉ before ∧ parse identifier = .ok l := by
  unfold ofFileName
  cases hcut : (path.withoutEnding suffix).namePart.cut '_' with
  | none =>
      have hlow := Text.cut_eq_none_iff.mp hcut
      constructor
      · intro h
        cases h
      · rintro ⟨before, identifier, hname, -⟩
        rw [hname] at hlow
        exact absurd (List.mem_append_right _ List.mem_cons_self) hlow
  | some parts =>
      obtain ⟨before, identifier⟩ := parts
      obtain ⟨hlow, hname⟩ := Text.cut_eq_some_iff.mp hcut
      constructor
      · intro h
        dsimp only at h
        split at h
        · cases h
        next hne => exact ⟨before, identifier, hname, hne, hlow, parse?_eq_some_iff.mp h⟩
      · rintro ⟨before', identifier', hname', hne, hlow', hparse⟩
        rw [Text.cut_eq_some_iff.mpr ⟨hlow', hname'⟩] at hcut
        cases hcut
        dsimp only
        rw [if_neg hne, parse?_eq_some_iff.mpr hparse]

theorem stripFromFileName_of_none (h : boundary (path.withoutEnding suffix).namePart = none) :
    stripFromFileName path suffix = path.withoutEnding suffix := by
  unfold stripFromFileName
  dsimp only
  rw [h]

theorem stripFromFileName_of_some
    (h : boundary (path.withoutEnding suffix).namePart = some (before, l)) :
    stripFromFileName path suffix = (path.withoutEnding suffix).directoryPart ++ before := by
  unfold stripFromFileName
  dsimp only
  rw [h]

/-- How a path is read: its parts, and what is left of its name in front of the locale. -/
structure IsRead (path suffix directory name before : Text) : Prop where
  parts : Text.HasParts path suffix directory name
  stripped : stripFromFileName path suffix = directory ++ before
  boundary : before = name ∧ NoneWithin name name.length ∨
    ∃ identifier l, IsBoundary name before identifier l
  derived_iff : (∃ l, ofFileName path suffix = some l) ↔
    before ≠ name ∧ before ≠ [] ∧ '_' ∉ before
  derived : ∀ l, ofFileName path suffix = some l → ∃ identifier, IsBoundary name before identifier l

theorem NoneWithin.ofFileName_ne
    (h : NoneWithin (path.withoutEnding suffix).namePart
      (path.withoutEnding suffix).namePart.length) (l : Locale) :
    ofFileName path suffix ≠ some l := by
  intro hl
  obtain ⟨before, identifier, hname, -, -, hparse⟩ := ofFileName_eq_some_iff.mp hl
  exact h.parse_ne hname l hparse

/-- A locale that is derived stands behind the boundary, which is the first underscore then. -/
theorem IsBoundary.of_ofFileName {l' : Locale}
    (h : IsBoundary (path.withoutEnding suffix).namePart before identifier l)
    (hl : ofFileName path suffix = some l') :
    (before ≠ [] ∧ '_' ∉ before) ∧
      IsBoundary (path.withoutEnding suffix).namePart before identifier l' := by
  obtain ⟨first, rest, hname, hne, hlow, hparse⟩ := ofFileName_eq_some_iff.mp hl
  obtain ⟨rfl, rfl⟩ := h.eq_of_not_mem hname hlow hparse
  exact ⟨⟨hne, hlow⟩, hname, hparse, h.first⟩

theorem exists_isRead (path suffix : Text) :
    ∃ directory name before, IsRead path suffix directory name before := by
  have hparts := Text.hasParts_withoutEnding path suffix
  rcases boundary_cases (path.withoutEnding suffix).namePart with
    ⟨hnone, hname⟩ | ⟨before, identifier, l, hsome, hname⟩
  · have hderived := hname.ofFileName_ne
    refine ⟨_, _, _, hparts, ?_, .inl ⟨rfl, hname⟩, ⟨?_, ?_⟩, fun l hl => absurd hl (hderived l)⟩
    · rw [Text.directoryPart_append_namePart]
      exact stripFromFileName_of_none hnone
    · rintro ⟨l, hl⟩
      exact absurd hl (hderived l)
    · rintro ⟨hne, -⟩
      exact absurd rfl hne
  · refine ⟨_, _, before, hparts, ?_, .inr ⟨identifier, l, hname⟩, ⟨?_, ?_⟩, ?_⟩
    · exact stripFromFileName_of_some hsome
    · rintro ⟨l', hl'⟩
      exact ⟨hname.ne_name, (hname.of_ofFileName hl').1⟩
    · rintro ⟨-, hne, hlow⟩
      exact ⟨l, ofFileName_eq_some_iff.mpr
        ⟨before, identifier, hname.name_eq, hne, hlow, hname.parse_eq⟩⟩
    · intro l' hl'
      exact ⟨identifier, (hname.of_ofFileName hl').2⟩

/-- The first underscore of this name has no identifier behind it: it belongs to the name. -/
example : stripFromFileName "my_pkg/My_Birthday_en.xml" ".xml" = "my_pkg/My_Birthday" ∧
    ofFileName "my_pkg/My_Birthday_en.xml" ".xml" = none := by
  decide

end Locale
end MessageCatalog
