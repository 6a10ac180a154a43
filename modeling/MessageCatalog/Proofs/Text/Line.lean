import MessageCatalog.Text.Basic

/-!
# Lines

A line feed, a carriage return, or a carriage return and a line feed behind it end a line. A text is
read line by line: what stands behind the first end of a line is read as it is alone, so that the
lines of a text are still there when lines are put in front of it.

**Results.**
* `naturalLines`: the lines of a text.
* `naturalLines_line`, `naturalLines_break`: the first line and the others.
* `mem_naturalLines_unlines_append`: lines in front of a text take none of its lines away.
-/

namespace MessageCatalog
namespace Text

/-- The text has no line break. -/
def IsLine (t : Text) : Prop :=
  '\n' ∉ t ∧ '\r' ∉ t

instance (t : Text) : Decidable (IsLine t) :=
  inferInstanceAs (Decidable (_ ∧ _))

/-- The lines of a text, the last of which may be empty. -/
def naturalLines : Text → List Text
  | [] => [[]]
  | '\r' :: '\n' :: t => [] :: naturalLines t
  | c :: t =>
      if c = '\n' ∨ c = '\r' then [] :: naturalLines t
      else
        match naturalLines t with
        | [] => [[c]]
        | line :: lines => (c :: line) :: lines

variable {c : Char} {t line other : Text} {lines : List Text}

theorem isLine_nil : IsLine [] :=
  ⟨List.not_mem_nil, List.not_mem_nil⟩

theorem isLine_append (line : Text) (hline : IsLine line) (h : IsLine t) : IsLine (line ++ t) := by
  unfold IsLine at hline h ⊢
  simp [hline, h]

theorem IsLine.mono (h : IsLine t) (hsub : line ⊆ t) : IsLine line :=
  ⟨fun hmem => h.1 (hsub hmem), fun hmem => h.2 (hsub hmem)⟩

theorem naturalLines_cons (hfeed : c ≠ '\n') (hreturn : c ≠ '\r')
    (h : t.naturalLines = line :: lines) : naturalLines (c :: t) = (c :: line) :: lines := by
  rw [naturalLines, if_neg (by simp [hfeed, hreturn]), h]
  intro _ hc
  exact absurd hc hreturn

/-- What stands in front of the first line of a text belongs to it. -/
theorem naturalLines_append (hline : IsLine line) (h : t.naturalLines = other :: lines) :
    naturalLines (line ++ t) = (line ++ other) :: lines := by
  induction line with
  | nil => exact h
  | cons c line ih =>
      obtain ⟨hfeed, hreturn⟩ := hline
      rw [List.mem_cons, not_or] at hfeed hreturn
      exact naturalLines_cons (Ne.symm hfeed.1) (Ne.symm hreturn.1) (ih ⟨hfeed.2, hreturn.2⟩)

theorem naturalLines_line (hline : IsLine line) (t : Text) :
    naturalLines (line ++ '\n' :: t) = line :: t.naturalLines := by
  have hfeed : naturalLines ('\n' :: t) = [] :: t.naturalLines := rfl
  rw [naturalLines_append hline hfeed, List.append_nil]

/-- A line ends at a break, and one that is a carriage return in front of a line feed goes on with
it. -/
theorem naturalLines_break (hline : IsLine line) (hbreak : c = '\n' ∨ c = '\r')
    (hfeed : c = '\r' → t.head? ≠ some '\n') :
    naturalLines (line ++ c :: t) = line :: t.naturalLines := by
  have hfirst : naturalLines (c :: t) = [] :: t.naturalLines := by
    rw [naturalLines, if_pos hbreak]
    rintro rest hc rfl
    exact hfeed hc rfl
  rw [naturalLines_append hline hfirst, List.append_nil]

theorem naturalLines_unlines {lines : List Text} (h : ∀ line ∈ lines, IsLine line) :
    naturalLines (unlines lines) = lines ++ [[]] := by
  induction lines with
  | nil => rfl
  | cons line lines ih =>
      have hunlines : unlines (line :: lines) = line ++ '\n' :: unlines lines := by
        simp [unlines]
      rw [hunlines, naturalLines_line (h line List.mem_cons_self),
        ih fun other hother => h other (List.mem_cons_of_mem _ hother), List.cons_append]

/-- In front of a break stands an empty line. -/
theorem exists_naturalLines_of_break (hbreak : c = '\n' ∨ c = '\r') (t : Text) :
    ∃ rest, naturalLines (c :: t) = [] :: rest := by
  unfold naturalLines
  split
  next h => cases h
  next => exact ⟨_, rfl⟩
  next h =>
    obtain ⟨rfl, rfl⟩ := List.cons.inj h
    exact ⟨_, if_pos hbreak⟩

/-- A line feed behind the text ends its only line. -/
def EndsOnce (t : Text) : Prop :=
  ∃ front, IsLine front ∧ (t = front ∨ t = front ++ ['\r'])

theorem naturalLines_endsOnce {front : Text} (hfront : IsLine front)
    (hline : line = front ∨ line = front ++ ['\r']) (t : Text) :
    naturalLines (line ++ '\n' :: t) = front :: t.naturalLines := by
  rcases hline with rfl | rfl
  · exact naturalLines_line hfront t
  · have hpair : naturalLines ('\r' :: '\n' :: t) = [] :: t.naturalLines := rfl
    rw [List.append_assoc, List.singleton_append, naturalLines_append hfront hpair,
      List.append_nil]

theorem naturalLines_of_isLine (h : IsLine line) : naturalLines line = [line] := by
  have hlines : naturalLines (line ++ []) = (line ++ []) :: [] := naturalLines_append h rfl
  rwa [List.append_nil] at hlines

/-- The first line of a text goes no further than to a line feed. -/
theorem exists_naturalLines_subset (line t : Text) :
    ∃ first rest, naturalLines (line ++ '\n' :: t) = first :: rest ∧ first ⊆ line := by
  induction line with
  | nil => exact ⟨[], t.naturalLines, rfl, List.nil_subset _⟩
  | cons c line ih =>
      by_cases hbreak : c = '\n' ∨ c = '\r'
      · obtain ⟨rest, hrest⟩ := exists_naturalLines_of_break hbreak (line ++ '\n' :: t)
        exact ⟨[], rest, hrest, List.nil_subset _⟩
      · rw [not_or] at hbreak
        obtain ⟨first, rest, hfirst, hsubset⟩ := ih
        exact ⟨c :: first, rest, naturalLines_cons hbreak.1 hbreak.2 hfirst,
          List.cons_subset_cons c hsubset⟩

theorem exists_naturalLines_eq_cons (t : Text) : ∃ first rest, t.naturalLines = first :: rest := by
  induction t with
  | nil => exact ⟨[], [], rfl⟩
  | cons c t ih =>
      by_cases hbreak : c = '\n' ∨ c = '\r'
      · obtain ⟨rest, hrest⟩ := exists_naturalLines_of_break hbreak t
        exact ⟨[], rest, hrest⟩
      · rw [not_or] at hbreak
        obtain ⟨first, rest, hfirst⟩ := ih
        exact ⟨c :: first, rest, naturalLines_cons hbreak.1 hbreak.2 hfirst⟩

/-- A character in front of a text leaves all lines but the first one as they are. -/
theorem tail_naturalLines_subset (c : Char) (t : Text) :
    (naturalLines t).tail ⊆ (naturalLines (c :: t)).tail := by
  by_cases hbreak : c = '\n' ∨ c = '\r'
  · by_cases hpair : c = '\r' ∧ t.head? = some '\n'
    · obtain ⟨rfl, hfeed⟩ := hpair
      obtain ⟨rest, rfl⟩ := List.head?_eq_some_iff.mp hfeed
      exact List.Subset.refl _
    · have hlines : naturalLines (c :: t) = [] :: t.naturalLines :=
        naturalLines_break isLine_nil hbreak fun hc hfeed => hpair ⟨hc, hfeed⟩
      rw [hlines]
      exact fun _ => List.mem_of_mem_tail
  · rw [not_or] at hbreak
    obtain ⟨first, rest, hfirst⟩ := exists_naturalLines_eq_cons t
    rw [naturalLines_cons hbreak.1 hbreak.2 hfirst, hfirst]
    exact List.Subset.refl _

theorem mem_tail_naturalLines_append (other : Text) (h : line ∈ t.naturalLines) :
    line ∈ (naturalLines (other ++ '\n' :: t)).tail := by
  induction other with
  | nil => exact h
  | cons c other ih => exact tail_naturalLines_subset c _ ih

/-- Lines in front of a text take none of its lines away. -/
theorem mem_naturalLines_unlines_append (others : List Text) (h : line ∈ t.naturalLines) :
    line ∈ naturalLines (unlines others ++ t) := by
  induction others with
  | nil => exact h
  | cons other others ih =>
      have hunlines : unlines (other :: others) ++ t = other ++ '\n' :: (unlines others ++ t) := by
        simp [unlines]
      rw [hunlines]
      exact List.mem_of_mem_tail (mem_tail_naturalLines_append other ih)

end Text
end MessageCatalog
