import MessageCatalog.Proofs.Text.Filled
import MessageCatalog.Proofs.Text.Line

/-!
# Line breaks in filled texts

Filling ends a line at a line break of the text, unless the line is as long as the width by then. It
is then cut at its last space within the width, and when it has none, at the first space of all that
is left: a line break in front of that space stays within the line. This happens exactly where a
word that reaches the width stands right in front of a line break.

**Results.**
* `lineLength_cases`: the three ways in which a line ends.
* `RunsOver`: a word that reaches the width, with a line break behind it.
* `forall_mem_filled_iff`: lines that run over a break have the property exactly if what is behind
  the words has another one.
* `filled_isLine_iff`: when no filled line has a line break.
* `filled_endsOnce_iff`: when no filled line has one but a carriage return at its end.
-/

namespace MessageCatalog
namespace Text

variable {width : Int} {t rest line : Text} {c : Char}

section LineEnd

theorem isBreak_iff : isBreak c = true ↔ c = '\n' ∨ c = '\r' := by
  simp [isBreak, or_comm]

theorem isLine_iff : IsLine t ↔ ∀ c ∈ t, isBreak c = false := by
  constructor
  · rintro ⟨hfeed, hreturn⟩ c hc
    refine Bool.eq_false_iff.mpr fun hbreak => ?_
    rcases isBreak_iff.mp hbreak with rfl | rfl
    · exact hfeed hc
    · exact hreturn hc
  · exact fun h => ⟨fun hfeed => absurd (h _ hfeed) (by decide),
      fun hreturn => absurd (h _ hreturn) (by decide)⟩

theorem take_lengthBefore (p : Char → Bool) (t : Text) :
    t.take (lengthBefore p t) = t.takeWhile fun c => !p c :=
  (List.prefix_iff_eq_take.mp (List.takeWhile_prefix _)).symm

theorem not_of_mem_take_lengthBefore {p : Char → Bool} {n : Nat} (hn : n ≤ lengthBefore p t)
    (hc : c ∈ t.take n) : p c = false := by
  have hmem : c ∈ t.takeWhile fun c => !p c :=
    take_lengthBefore p t ▸ List.take_subset_take_left t hn hc
  simpa using List.mem_takeWhile_imp hmem

/-- A line ends at the first line break, at a space no further than at the width, or at the first
space if there is none within the width. -/
theorem lineLength_cases (width : Int) (t : Text) :
    ¬ (0 < width ∧ width ≤ lengthBefore isBreak t) ∧
        lineLength width t = lengthBefore isBreak t ∨
      (0 < width ∧ width ≤ lengthBefore isBreak t) ∧
        ((lineLength width t ≤ lengthBefore isBreak t ∧
            ∃ rest, t.drop (lineLength width t) = ' ' :: rest) ∨
          lineLength width t = lengthBefore (· = ' ') t) := by
  by_cases hwide : 0 < width ∧ width ≤ lengthBefore isBreak t
  · refine .inr ⟨hwide, ?_⟩
    unfold lineLength
    dsimp only
    rw [if_pos hwide]
    cases hspace : lengthBeforeLastSpace (t.take (width.toNat + 1)) with
    | none => exact .inr rfl
    | some n =>
        refine .inl ⟨?_, drop_of_lengthBeforeLastSpace hspace⟩
        have hlt := lt_of_lengthBeforeLastSpace hspace
        dsimp only
        omega
  · refine .inl ⟨hwide, ?_⟩
    unfold lineLength
    exact if_neg hwide

end LineEnd

section Overrun

/-- In front of `rest`, which begins with a line break, stands a word of the text that reaches the
width. -/
structure RunsOver (width : Int) (t rest : Text) : Prop where
  positive : 0 < width
  breaks : ∃ c ∈ rest.head?, isBreak c = true
  word : ∃ before word, t = before ++ (word ++ rest) ∧ (∀ c ∈ word, isGap c = false) ∧
    width ≤ word.length

/-- From a line break on the line goes on to the next space. -/
structure IsExcess (excess behind : Text) : Prop where
  breaks : ∃ c ∈ excess.head?, isBreak c = true
  noSpace : ' ' ∉ excess
  space : ∀ c ∈ behind.head?, c = ' '

theorem RunsOver.append_left (h : RunsOver width t rest) (before : Text) :
    RunsOver width (before ++ t) rest := by
  obtain ⟨before', word, rfl, hword, hlength⟩ := h.word
  exact ⟨h.positive, h.breaks, before ++ before', word, (List.append_assoc _ _ _).symm, hword,
    hlength⟩

/-- A line without a space within the width has no line break, or it runs over one. -/
theorem firstLine_of_space (hwide : 0 < width ∧ width ≤ lengthBefore isBreak t) :
    IsLine (t.takeWhile fun c => !decide (c = ' ')) ∨
      ∃ front excess, t.takeWhile (fun c => !decide (c = ' ')) = front ++ excess ∧ IsLine front ∧
        IsExcess excess (t.dropWhile fun c => !decide (c = ' ')) ∧
        RunsOver width t (excess ++ t.dropWhile fun c => !decide (c = ' ')) := by
  obtain ⟨front, behind, ht, hfront, hlength, hbehind⟩ : ∃ front behind : Text,
      t = front ++ behind ∧ (∀ c ∈ front, isBreak c = false) ∧ width ≤ front.length ∧
        ∀ c ∈ behind.head?, isBreak c = true := by
    refine ⟨t.takeWhile fun c => !isBreak c, t.dropWhile fun c => !isBreak c,
      List.takeWhile_append_dropWhile.symm, fun c hc => ?_, hwide.2, fun c hc => ?_⟩
    · simpa using List.mem_takeWhile_imp hc
    · have hfirst := List.head?_dropWhile_not (fun c => !isBreak c) t
      rw [hc] at hfirst
      simpa using hfirst
  subst ht
  have hisLine : IsLine front := isLine_iff.mpr hfront
  by_cases hspace : ' ' ∈ front
  · -- the line ends within the part in front of the break
    have hends : ((front.takeWhile fun c => !decide (c = ' ')).length ≠ front.length) := by
      intro hlength
      have hall := (List.takeWhile_prefix _).eq_of_length hlength
      rw [← hall] at hspace
      simpa using List.mem_takeWhile_imp hspace
    rw [List.takeWhile_append, if_neg hends]
    exact .inl (hisLine.mono (List.takeWhile_subset _))
  · have hword : ∀ c ∈ front, (!decide (c = ' ')) = true := by
      intro c hc
      simpa using fun h : c = ' ' => hspace (h ▸ hc)
    rw [List.takeWhile_append_of_pos hword, List.dropWhile_append_of_pos hword]
    cases behind with
    | nil => exact .inl (by simpa using hisLine)
    | cons c rest =>
        have hc : isBreak c = true := hbehind c rfl
        have hne : (!decide (c = ' ')) = true := by
          simpa using fun h : c = ' ' => absurd (h ▸ hc) (by decide)
        rw [List.takeWhile_cons_of_pos (p := fun c => !decide (c = ' ')) hne,
          List.dropWhile_cons_of_pos (p := fun c => !decide (c = ' ')) hne]
        refine .inr ⟨front, _, rfl, hisLine, ⟨⟨c, rfl, hc⟩, ?_, ?_⟩, ?_⟩
        · rw [List.mem_cons, not_or]
          exact ⟨fun h => absurd (h ▸ hc) (by decide),
            fun hmem => by simpa using List.mem_takeWhile_imp hmem⟩
        · intro d hd
          have hfirst := List.head?_dropWhile_not (fun c => !decide (c = ' ')) rest
          rw [hd] at hfirst
          simpa using hfirst
        · rw [List.cons_append, List.takeWhile_append_dropWhile]
          refine ⟨hwide.1, ⟨c, rfl, hc⟩, [], front, rfl, fun d hd => ?_, hlength⟩
          have hspace' : d ≠ ' ' := by simpa using hword d hd
          simp [isGap, hspace', hfront d hd]

theorem not_runsOver_nil : ¬ RunsOver width [] rest := by
  rintro ⟨-, ⟨c, hc, -⟩, before, word, hnil, -⟩
  obtain ⟨-, -, rfl⟩ : before = [] ∧ word = [] ∧ rest = [] := by simpa [eq_comm] using hnil
  cases hc

/-- The first line has no line break, or it runs over one. -/
theorem firstLine_cases (width : Int) (t : Text) :
    IsLine (t.take (lineLength width t)) ∨
      ∃ front excess, t.take (lineLength width t) = front ++ excess ∧ IsLine front ∧
        IsExcess excess (t.drop (lineLength width t)) ∧
        RunsOver width t (excess ++ t.drop (lineLength width t)) := by
  have hshort (hle : lineLength width t ≤ lengthBefore isBreak t) :
      IsLine (t.take (lineLength width t)) :=
    isLine_iff.mpr fun c hc => not_of_mem_take_lengthBefore hle hc
  rcases lineLength_cases width t with ⟨-, hlength⟩ | ⟨hwide, ⟨hlimit, -⟩ | hlength⟩
  · exact .inl (hshort hlength.le)
  · exact .inl (hshort hlimit)
  · rw [hlength, take_lengthBefore, drop_lengthBefore]
    exact firstLine_of_space hwide

/-- A line that reaches the width does not end in front of a line break. -/
theorem not_wide_of_drop_lineLength (hdrop : t.drop (lineLength width t) = c :: rest)
    (hc : isBreak c = true) : ¬ (0 < width ∧ width ≤ lineLength width t) := by
  have hspace : c ≠ ' ' := by
    rintro rfl
    cases hc
  rcases lineLength_cases width t with ⟨hnot, hlength⟩ | ⟨-, ⟨-, rest', hrest⟩ | hlength⟩
  · rwa [hlength]
  · exact absurd (List.cons.inj (hdrop.symm.trans hrest)).1 hspace
  · rw [hlength] at hdrop
    exact absurd (of_decide_eq_true (of_drop_lengthBefore hdrop)) hspace

/-- A word that stands behind a gap does not begin in it. -/
theorem exists_of_gap_append {gap tail before word : Text} (hgap : ∀ c ∈ gap, isGap c = true)
    (hword : ∀ c ∈ word, isGap c = false) (hne : word ≠ [])
    (h : gap ++ tail = before ++ (word ++ rest)) : ∃ between, tail = between ++ (word ++ rest) := by
  rcases List.append_eq_append_iff.mp h with ⟨between, -, htail⟩ | ⟨between, hsplit, htail⟩
  · exact ⟨between, htail⟩
  · cases between with
    | nil => exact ⟨[], htail.symm⟩
    | cons c between =>
        obtain ⟨d, word, rfl⟩ := List.exists_cons_of_ne_nil hne
        obtain rfl : d = c := (List.cons.inj htail).1
        have hc : isGap d = true := hgap d (by simp [hsplit])
        rw [hword d List.mem_cons_self] at hc
        cases hc

/-- Where a word runs over a break, the break is in the first line, or the word is behind it. -/
theorem RunsOver.cases_firstLine (h : RunsOver width t rest) :
    (∃ front excess, t.take (lineLength width t) = front ++ excess ∧
      (∃ c ∈ excess.head?, isBreak c = true) ∧ rest = excess ++ t.drop (lineLength width t)) ∨
      RunsOver width (afterLine width t) rest := by
  obtain ⟨hpositive, hbreaks, before, word, ht, hword, hlength⟩ := h
  have hcut := ht.symm.trans (List.take_append_drop (lineLength width t) t).symm
  -- a line with the word does not end right in front of the break
  have hshort (hdrop : t.drop (lineLength width t) = rest) :
      (t.take (lineLength width t)).length < word.length := by
    obtain ⟨c, hc, hbreak⟩ := hbreaks
    obtain ⟨rest', hrest⟩ := List.head?_eq_some_iff.mp hc
    have hwide := not_wide_of_drop_lineLength (hdrop.trans hrest) hbreak
    have htake := List.length_take_le (lineLength width t) t
    omega
  rcases List.append_eq_append_iff.mp hcut with ⟨inner, hline, hinner⟩ | ⟨inner, -, hinner⟩
  · rcases List.append_eq_append_iff.mp hinner with ⟨excess, rfl, hrest⟩ | ⟨last, rfl, hdrop⟩
    · refine .inl ⟨before ++ word, excess, by rw [hline, List.append_assoc], ?_, hrest⟩
      cases excess with
      | nil =>
          have := hshort hrest.symm
          rw [hline, List.length_append, List.append_nil] at this
          omega
      | cons c excess =>
          rw [hrest] at hbreaks
          exact hbreaks
    · cases last with
      | nil =>
          have := hshort hdrop
          rw [hline, List.length_append, List.append_nil] at this
          omega
      | cons c last =>
          have hc := isGap_of_drop_lineLength hdrop
          rw [hword c (List.mem_append_right _ List.mem_cons_self)] at hc
          cases hc
  · obtain ⟨gap, hsplit, hgap, -⟩ := exists_gap width t
    have hbehind : t.drop (lineLength width t) = gap ++ afterLine width t :=
      List.append_cancel_left ((List.take_append_drop _ _).trans hsplit)
    have hne : word ≠ [] := by
      rintro rfl
      exact absurd hlength (Int.not_le.mpr hpositive)
    obtain ⟨between, htail⟩ := exists_of_gap_append hgap hword hne (hbehind.symm.trans hinner)
    exact .inr ⟨hpositive, hbreaks, between, word, htail, hword, hlength⟩

end Overrun

section AllLines

/-- The lines have a property that lines without a line break have, if and only if what stands
behind the words that run over a break has the property that goes with it. -/
theorem forall_mem_filled_iff {P Q : Text → Prop} (hline : ∀ line, IsLine line → P line)
    (hover : ∀ front excess behind, IsLine front → IsExcess excess behind →
      Q (excess ++ behind) → P (front ++ excess))
    (hback : ∀ front excess behind, (∃ c ∈ excess.head?, isBreak c = true) →
      (∀ c ∈ behind.head?, c = ' ') → P (front ++ excess) → Q (excess ++ behind)) :
    (∀ line ∈ t.filled width, P line) ↔ ∀ rest, RunsOver width t rest → Q rest := by
  constructor
  · intro h rest hrest
    induction t using filled.induct width with
    | case1 => exact absurd hrest not_runsOver_nil
    | case2 c t ih =>
        rw [filled, List.forall_mem_cons] at h
        rcases hrest.cases_firstLine with ⟨front, excess, hfirst, hbreaks, rfl⟩ | hrest'
        · refine hback front excess _ hbreaks ?_ (hfirst ▸ h.1)
          rcases firstLine_cases width (c :: t) with hisLine | ⟨_, _, -, -, hexcess, -⟩
          · obtain ⟨d, hd, hbreak⟩ := hbreaks
            have hmem : d ∈ front ++ excess := List.mem_append_right _ (List.mem_of_mem_head? hd)
            rw [hfirst] at hisLine
            rw [isLine_iff.mp hisLine d hmem] at hbreak
            cases hbreak
          · exact hexcess.space
        · exact ih h.2 hrest'
  · intro h
    induction t using filled.induct width with
    | case1 =>
        rw [filled]
        exact List.forall_mem_nil _
    | case2 c t ih =>
        rw [filled, List.forall_mem_cons]
        refine ⟨?_, ih fun rest hrest => ?_⟩
        · rcases firstLine_cases width (c :: t) with
            hfirst | ⟨front, excess, hfirst, hfront, hexcess, hruns⟩
          · exact hline _ hfirst
          · rw [hfirst]
            exact hover front excess _ hfront hexcess (h _ hruns)
        · obtain ⟨gap, hsplit, -⟩ := exists_gap width (c :: t)
          rw [hsplit] at h
          exact h rest ((hrest.append_left gap).append_left _)

/-- From a line break on a filled line has no space. -/
theorem isLine_or_exists_break (width : Int) (t : Text) :
    ∀ line ∈ t.filled width, IsLine line ∨ ∃ front c excess, line = front ++ c :: excess ∧
      IsLine front ∧ isBreak c = true ∧ ' ' ∉ excess := by
  refine (forall_mem_filled_iff (Q := fun _ => True) (fun _ => .inl) ?_ ?_).mpr fun _ _ => trivial
  · rintro front excess - hfront ⟨⟨c, hc, hbreak⟩, hnoSpace, -⟩ -
    obtain ⟨excess, rfl⟩ := List.head?_eq_some_iff.mp hc
    exact .inr ⟨front, c, excess, rfl, hfront, hbreak, fun hmem => hnoSpace (.tail c hmem)⟩
  · exact fun _ _ _ _ _ _ => trivial

/-- No filled line has a line break exactly if no word runs over one. -/
theorem filled_isLine_iff (width : Int) (t : Text) :
    (∀ line ∈ t.filled width, IsLine line) ↔ ∀ rest, ¬ RunsOver width t rest := by
  refine forall_mem_filled_iff (Q := fun _ => False) (fun _ => id) (fun _ _ _ _ _ => False.elim) ?_
  rintro front excess - ⟨c, hc, hbreak⟩ - h
  rw [isLine_iff.mp h c (List.mem_append_right _ (List.mem_of_mem_head? hc))] at hbreak
  cases hbreak

/-- The text begins with a carriage return, and a space or nothing stands behind that. -/
def IsLoneReturn (rest : Text) : Prop :=
  rest = ['\r'] ∨ ['\r', ' '] <+: rest

/-- The only break in a filled line is a carriage return at its end exactly if words run over no
other ones. -/
theorem filled_endsOnce_iff (width : Int) (t : Text) :
    (∀ line ∈ t.filled width, EndsOnce line) ↔
      ∀ rest, RunsOver width t rest → IsLoneReturn rest := by
  refine forall_mem_filled_iff (fun line h => ⟨line, h, .inl rfl⟩) ?_ ?_
  · rintro front excess behind hfront ⟨⟨c, hc, -⟩, hnoSpace, -⟩ hlone
    obtain ⟨excess, rfl⟩ := List.head?_eq_some_iff.mp hc
    rw [List.mem_cons, not_or] at hnoSpace
    have hlone' : c = '\r' ∧ excess = [] := by
      rcases hlone with hrest | hrest
      · simp at hrest
        exact ⟨hrest.1, hrest.2.1⟩
      · rw [List.cons_append, List.cons_prefix_cons] at hrest
        refine ⟨hrest.1.symm, ?_⟩
        cases excess with
        | nil => rfl
        | cons d excess =>
            obtain rfl : ' ' = d := (List.cons_prefix_cons.mp hrest.2).1
            exact absurd List.mem_cons_self hnoSpace.2
    rw [hlone'.1, hlone'.2]
    exact ⟨front, hfront, .inr rfl⟩
  · rintro front excess behind ⟨c, hc, hbreak⟩ hspace ⟨line, hline, hends⟩
    obtain ⟨excess, rfl⟩ := List.head?_eq_some_iff.mp hc
    have hnotMem : c ∉ line := by
      intro hmem
      rw [isLine_iff.mp hline c hmem] at hbreak
      cases hbreak
    rcases hends with rfl | hends
    · exact absurd (by simp) hnotMem
    · rcases List.eq_nil_or_concat excess with rfl | ⟨excess, d, rfl⟩
      · obtain ⟨-, hreturn⟩ := List.append_inj' hends rfl
        rw [hreturn]
        cases behind with
        | nil => exact .inl rfl
        | cons d behind =>
            rw [hspace d rfl]
            exact .inr (List.prefix_append ['\r', ' '] behind)
      · rw [List.concat_eq_append, ← List.cons_append, ← List.append_assoc] at hends
        obtain ⟨rfl, -⟩ := List.append_inj' hends rfl
        exact absurd (by simp) hnotMem

end AllLines

end Text
end MessageCatalog
