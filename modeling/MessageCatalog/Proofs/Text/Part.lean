import MessageCatalog.Text.Basic

/-!
# Parts of texts

A text is cut at the first or at the last occurrence of a character, or at every one. A cut gives the
text back, its inner part does not have the character, and the parts have no other characters than
the text; a text in front that has no separator belongs to the first part, and one behind it to the
last. Joining the parts is inverse to cutting the text at every separator.
-/

namespace MessageCatalog
namespace Text

variable {c d : Char} {t before after part : Text}

/-- A cut stands at the first occurrence. -/
theorem cut_eq_some_iff :
    t.cut c = some (before, after) ↔ c ∉ before ∧ t = before ++ c :: after := by
  induction t generalizing before with
  | nil => simp [cut]
  | cons d t ih =>
      rw [cut]
      by_cases hd : d = c
      · subst hd
        cases before <;> simp +contextual [eq_comm]
      · rw [if_neg hd]
        cases before with
        | nil => simp [hd]
        | cons e before =>
            simp only [Option.map_eq_some_iff, Prod.exists, Prod.mk.injEq, List.cons.injEq,
              List.mem_cons, not_or, List.cons_append]
            constructor
            · rintro ⟨_, _, hcut, ⟨rfl, rfl⟩, rfl⟩
              obtain ⟨hbefore, rfl⟩ := ih.mp hcut
              exact ⟨⟨Ne.symm hd, hbefore⟩, rfl, rfl⟩
            · rintro ⟨⟨-, hbefore⟩, rfl, rfl⟩
              exact ⟨before, after, ih.mpr ⟨hbefore, rfl⟩, ⟨rfl, rfl⟩, rfl⟩

theorem cut_eq_none_iff : t.cut c = none ↔ c ∉ t := by
  induction t with
  | nil => simp [cut]
  | cons d t ih =>
      rw [cut]
      by_cases hd : d = c
      · simp [hd]
      · simp [if_neg hd, ih, Ne.symm hd]

theorem cutLast_eq_none_iff : t.cutLast c = none ↔ c ∉ t := by
  induction t with
  | nil => simp [cutLast]
  | cons d t ih =>
      rw [cutLast]
      cases hcut : cutLast c t with
      | some parts =>
          have hmem : c ∈ t := Decidable.byContradiction fun hmem => by
            rw [ih.mpr hmem] at hcut
            cases hcut
          simp [hmem]
      | none => simp [ih.mp hcut, eq_comm]

/-- The last occurrence behind a separator is the last one in what follows it, if there is one. -/
theorem cutLast_append_cons (c : Char) (before after : Text) :
    (before ++ c :: after).cutLast c = some
      (match after.cutLast c with
        | some (between, last) => (before ++ c :: between, last)
        | none => (before, after)) := by
  induction before with
  | nil =>
      rw [List.nil_append, cutLast]
      cases after.cutLast c with
      | some parts => rfl
      | none => simp
  | cons d before ih =>
      rw [List.cons_append, cutLast, ih]
      cases after.cutLast c <;> rfl

/-- A cut at the last occurrence stands in front of a part without it. -/
theorem cutLast_eq_some_iff :
    t.cutLast c = some (before, after) ↔ c ∉ after ∧ t = before ++ c :: after := by
  constructor
  · intro h
    induction t generalizing before with
    | nil => cases h
    | cons d t ih =>
        rw [cutLast] at h
        split at h
        next first rest hcut =>
          cases h
          obtain ⟨hafter, rfl⟩ := ih hcut
          exact ⟨hafter, rfl⟩
        next hcut =>
          split at h
          next hd =>
            cases h
            exact ⟨cutLast_eq_none_iff.mp hcut, by rw [hd]; rfl⟩
          next => cases h
  · rintro ⟨hafter, rfl⟩
    rw [cutLast_append_cons, cutLast_eq_none_iff.mpr hafter]

theorem subset_of_cutLast (h : t.cutLast c = some (before, after)) : before ⊆ t ∧ after ⊆ t := by
  obtain ⟨-, rfl⟩ := cutLast_eq_some_iff.mp h
  exact ⟨List.subset_append_left _ _, fun _ hmem => by simp [hmem]⟩

theorem exists_splitOn_eq_cons (c : Char) (t : Text) :
    ∃ part parts, t.splitOn c = part :: parts := by
  cases t with
  | nil => exact ⟨_, _, rfl⟩
  | cons d t =>
      rw [splitOn]
      split
      · exact ⟨_, _, rfl⟩
      · split
        · exact ⟨_, _, rfl⟩
        · exact ⟨_, _, rfl⟩

/-- What stands in front of the first separator belongs to the first part. -/
theorem splitOn_append_left {parts : List Text} (hbefore : c ∉ before)
    (h : t.splitOn c = part :: parts) : (before ++ t).splitOn c = (before ++ part) :: parts := by
  induction before with
  | nil => exact h
  | cons d before ih =>
      rw [List.mem_cons, not_or] at hbefore
      rw [List.cons_append, splitOn, if_neg (Ne.symm hbefore.1), ih hbefore.2]
      rfl

theorem mem_of_mem_splitOn (hpart : part ∈ t.splitOn c) (hd : d ∈ part) : d ∈ t ∧ d ≠ c := by
  induction t generalizing part with
  | nil =>
      cases List.mem_singleton.mp hpart
      cases hd
  | cons e t ih =>
      by_cases he : e = c
      · rw [splitOn, if_pos he] at hpart
        rcases List.mem_cons.mp hpart with rfl | hpart
        · cases hd
        · obtain ⟨hmem, hne⟩ := ih hpart hd
          exact ⟨List.mem_cons_of_mem _ hmem, hne⟩
      · obtain ⟨first, rest, hsplit⟩ := exists_splitOn_eq_cons c t
        rw [splitOn, if_neg he, hsplit] at hpart
        rw [hsplit] at ih
        rcases List.mem_cons.mp hpart with rfl | hpart
        · rcases List.mem_cons.mp hd with rfl | hd
          · exact ⟨List.mem_cons_self, he⟩
          · obtain ⟨hmem, hne⟩ := ih List.mem_cons_self hd
            exact ⟨List.mem_cons_of_mem _ hmem, hne⟩
        · obtain ⟨hmem, hne⟩ := ih (List.mem_cons_of_mem _ hpart) hd
          exact ⟨List.mem_cons_of_mem _ hmem, hne⟩

theorem splitOn_cons_self (c : Char) (t : Text) : splitOn c (c :: t) = [] :: t.splitOn c :=
  if_pos rfl

theorem splitOn_cons_of_ne {c d : Char} (h : d ≠ c) {t part : Text} {parts : List Text}
    (ht : t.splitOn c = part :: parts) : splitOn c (d :: t) = (d :: part) :: parts := by
  rw [splitOn, if_neg h, ht]

theorem splitOn_of_not_mem {c : Char} {t : Text} (h : c ∉ t) : t.splitOn c = [t] := by
  induction t with
  | nil => rfl
  | cons d t ih =>
      rw [List.mem_cons, not_or] at h
      exact splitOn_cons_of_ne (Ne.symm h.1) (ih h.2)

/-- Behind the last separator of a text stands its last part, which what is appended extends. -/
theorem splitOn_append (c : Char) (t : Text) : ∃ parts last, t.splitOn c = parts ++ [last] ∧
    ∀ suffix : Text, c ∉ suffix → (t ++ suffix).splitOn c = parts ++ [last ++ suffix] := by
  induction t with
  | nil => exact ⟨[], [], rfl, fun suffix hsuffix => splitOn_of_not_mem hsuffix⟩
  | cons d t ih =>
      obtain ⟨parts, last, ht, happend⟩ := ih
      by_cases hd : d = c
      · subst hd
        refine ⟨[] :: parts, last, ?_, fun suffix hsuffix => ?_⟩
        · rw [splitOn_cons_self, ht]
          rfl
        · rw [List.cons_append, splitOn_cons_self, happend suffix hsuffix]
          rfl
      · cases parts with
        | nil =>
            exact ⟨[], d :: last, splitOn_cons_of_ne hd ht,
              fun suffix hsuffix => splitOn_cons_of_ne hd (happend suffix hsuffix)⟩
        | cons part parts =>
            exact ⟨(d :: part) :: parts, last, splitOn_cons_of_ne hd ht,
              fun suffix hsuffix => splitOn_cons_of_ne hd (happend suffix hsuffix)⟩

/-- A text is split in front of a separator and behind it. -/
theorem splitOn_append_cons (c : Char) (before after : Text) :
    (before ++ c :: after).splitOn c = before.splitOn c ++ after.splitOn c := by
  induction before with
  | nil => rw [List.nil_append, splitOn_cons_self]; rfl
  | cons d before ih =>
      by_cases hd : d = c
      · subst hd
        rw [List.cons_append, splitOn_cons_self, splitOn_cons_self, ih]
        rfl
      · obtain ⟨part, parts, hsplit⟩ := exists_splitOn_eq_cons c before
        rw [hsplit, List.cons_append] at ih
        rw [List.cons_append, splitOn_cons_of_ne hd ih, splitOn_cons_of_ne hd hsplit]
        rfl

theorem join_singleton (separator part : Text) : join separator [part] = part :=
  List.intercalate_singleton

theorem join_cons_cons (separator part next : Text) (parts : List Text) :
    join separator (part :: next :: parts) = part ++ separator ++ join separator (next :: parts) :=
  List.intercalate_cons_cons

/-- A separator stands behind every part but the last one. -/
theorem join_append_singleton (c : Char) (parts : List Text) (last : Text) :
    join [c] (parts ++ [last]) = parts.flatMap (· ++ [c]) ++ last := by
  induction parts with
  | nil => exact join_singleton _ _
  | cons part parts ih =>
      obtain ⟨next, others, hothers⟩ :=
        List.exists_cons_of_ne_nil (List.append_ne_nil_of_right_ne_nil parts (List.cons_ne_nil last []))
      rw [hothers] at ih
      rw [List.cons_append, hothers, join_cons_cons, ih, List.flatMap_cons,
        List.append_assoc (part ++ [c])]

theorem join_splitOn (c : Char) (t : Text) : join [c] (t.splitOn c) = t := by
  induction t with
  | nil => rfl
  | cons d t ih =>
      obtain ⟨part, parts, hsplit⟩ := exists_splitOn_eq_cons c t
      rw [hsplit] at ih
      by_cases hd : d = c
      · subst hd
        rw [splitOn_cons_self, hsplit, join_cons_cons, ih]
        rfl
      · rw [splitOn_cons_of_ne hd hsplit, ← ih]
        cases parts with
        | nil => rw [join_singleton, join_singleton]
        | cons next parts => rw [join_cons_cons, join_cons_cons]; rfl

/-- Parts without separators are read off what they are joined to. -/
theorem splitOn_join {parts : List Text} {last : Text} (hparts : ∀ part ∈ parts, c ∉ part)
    (hlast : c ∉ last) : splitOn c (parts.flatMap (· ++ [c]) ++ last) = parts ++ [last] := by
  induction parts with
  | nil => exact splitOn_of_not_mem hlast
  | cons part parts ih =>
      have hrest := ih fun other hother => hparts other (List.mem_cons_of_mem _ hother)
      rw [List.flatMap_cons, List.append_assoc, List.append_assoc, List.singleton_append,
        splitOn_append_cons, splitOn_of_not_mem (hparts part List.mem_cons_self), hrest]
      rfl

end Text
end MessageCatalog
