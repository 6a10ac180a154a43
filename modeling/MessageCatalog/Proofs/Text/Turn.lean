import MessageCatalog.Proofs.Text.LineBreak

/-!
# Filling turn by turn

Filling is a loop. As long as a text is left, a turn takes its first line and the gap behind that line
off it. Either of the two has a character, so that the loop ends after as many turns as there are
lines, and after no more turns than the text has characters. Nothing but gaps is lost on the way.

**Results.**
* `Filling.Ends`: the loop ends after a number of turns, with some lines.
* `ends_filled`: it does end, with the filled lines.
* `HasGaps`: the text is the lines in turn with the gaps behind them.
* `fits_of_mem_filled`: a line keeps within the width, or it has no space.
* `filled_loses_gaps_only`: the loop ends, only gaps are lost, and only the empty text has no lines.
-/

namespace MessageCatalog
namespace Text

variable {width : Int} {t line : Text} {lines : List Text}

/-- How far filling has come: the lines so far and the text that is left. -/
structure Filling where
  lines : List Text
  left : Text

namespace Filling

/-- A turn takes the first line and the gap behind it off the text that is left. -/
def turn (width : Int) (f : Filling) : Filling :=
  ⟨f.lines ++ [f.left.take (lineLength width f.left)], afterLine width f.left⟩

/-- Turns are taken until no text is left; their number and the lines at the end. -/
inductive Ends (width : Int) : Filling → Nat → List Text → Prop
  | done (lines : List Text) : Ends width ⟨lines, []⟩ 0 lines
  | turn {f : Filling} {turns : Nat} {lines : List Text} (goesOn : f.left ≠ [])
      (others : Ends width (f.turn width) turns lines) : Ends width f (turns + 1) lines

/-- The lines of the text that is left come behind the lines so far, one a turn. -/
theorem ends_append_filled (width : Int) (t : Text) (lines : List Text) :
    Ends width ⟨lines, t⟩ (t.filled width).length (lines ++ t.filled width) := by
  induction t using filled.induct width generalizing lines with
  | case1 =>
      rw [filled, List.append_nil]
      exact .done lines
  | case2 c t ih =>
      rw [filled]
      refine .turn (List.cons_ne_nil c t) ?_
      have hrest := ih (lines ++ [(c :: t).take (lineLength width (c :: t))])
      rwa [List.append_assoc] at hrest

end Filling

/-- No text has more lines than characters. -/
theorem length_filled_le (width : Int) (t : Text) : (t.filled width).length ≤ t.length := by
  induction t using filled.induct width with
  | case1 =>
      rw [filled]
      exact Nat.le_refl 0
  | case2 c t ih =>
      rw [filled, List.length_cons]
      exact Nat.lt_of_le_of_lt ih (length_afterLine_lt width c t)

/-- Filling ends, and with the filled lines. -/
theorem ends_filled (width : Int) (t : Text) :
    ∃ turns ≤ t.length, Filling.Ends width ⟨[], t⟩ turns (t.filled width) :=
  ⟨_, length_filled_le width t, Filling.ends_append_filled width t []⟩

/-- The text is the lines in order, each with its gap behind it; a gap has nothing but spaces and line
breaks, and every gap but the last one has some. -/
structure HasGaps (t : Text) (lines gaps : List Text) : Prop where
  length : gaps.length = lines.length
  text : (List.zipWith (· ++ ·) lines gaps).flatten = t
  blank : ∀ gap ∈ gaps, ∀ c ∈ gap, c = ' ' ∨ c = '\r' ∨ c = '\n'
  ne_nil : ∀ gap ∈ gaps.dropLast, gap ≠ []

theorem isGap_iff {c : Char} : isGap c = true ↔ c = ' ' ∨ c = '\r' ∨ c = '\n' := by
  simp [isGap, isBreak]

theorem filled_eq_nil_iff : t.filled width = [] ↔ t = [] := by
  cases t with
  | nil => simp [filled]
  | cons c t => simp [filled]

theorem exists_hasGaps (width : Int) (t : Text) : ∃ gaps, HasGaps t (t.filled width) gaps := by
  induction t using filled.induct width with
  | case1 =>
      rw [filled]
      exact ⟨[], rfl, rfl, fun _ h => absurd h List.not_mem_nil, fun _ h => absurd h List.not_mem_nil⟩
  | case2 c t ih =>
      rw [filled]
      obtain ⟨gap, hsplit, hgap, hlast⟩ := exists_gap width (c :: t)
      obtain ⟨gaps, hgaps⟩ := ih
      refine ⟨gap :: gaps, congrArg (· + 1) hgaps.length, ?_, ?_, ?_⟩
      · rw [List.zipWith_cons_cons, List.flatten_cons, hgaps.text, List.append_assoc, ← hsplit]
      · intro g hg
        rcases List.mem_cons.mp hg with rfl | hg
        · exact fun d hd => isGap_iff.mp (hgap d hd)
        · exact hgaps.blank g hg
      · -- behind a gap without characters no text is left, so that it is the last one
        cases gaps with
        | nil => exact fun _ h => absurd h List.not_mem_nil
        | cons next others =>
            intro g hg
            rcases List.mem_cons.mp hg with rfl | hg
            · intro hnil
              have hlines := hgaps.length
              rw [filled_eq_nil_iff.mpr (hlast hnil)] at hlines
              cases hlines
            · exact hgaps.ne_nil g hg

/-- The first line keeps within the width, or it goes no further than to the first space. -/
theorem lineLength_le_or (hwidth : 0 < width) (t : Text) :
    lineLength width t ≤ width ∨ lineLength width t = lengthBefore (· = ' ') t := by
  unfold lineLength
  dsimp only
  split
  · split
    next n hspace =>
      have hlt := lt_of_lengthBeforeLastSpace hspace
      exact .inl (by omega)
    next => exact .inr rfl
  next hnot => exact .inl (by omega)

theorem firstLine_fits (hwidth : 0 < width) (t : Text) :
    (t.take (lineLength width t)).length ≤ width ∨ ' ' ∉ t.take (lineLength width t) := by
  rcases lineLength_le_or hwidth t with hle | hspace
  · have htake := List.length_take_le (lineLength width t) t
    exact .inl (by omega)
  · refine .inr fun hmem => ?_
    exact absurd (not_of_mem_take_lengthBefore (Nat.le_of_eq hspace) hmem) (by decide)

theorem fits_of_mem_filled (hwidth : 0 < width) (h : line ∈ t.filled width) :
    line.length ≤ width ∨ ' ' ∉ line := by
  induction t using filled.induct width with
  | case1 =>
      rw [filled] at h
      cases h
  | case2 c t ih =>
      rw [filled] at h
      rcases List.mem_cons.mp h with rfl | h
      · exact firstLine_fits hwidth (c :: t)
      · exact ih h

/-- Filling ends after no more turns than there are characters. The text is the filled lines with gaps
of spaces and line breaks behind them, of which only the last one may be missing. For a positive width
every line keeps within it or has no space, and only the empty text has no lines. -/
theorem filled_loses_gaps_only (width : Int) (t : Text) :
    (∃ turns ≤ t.length, Filling.Ends width ⟨[], t⟩ turns (t.filled width)) ∧
      (∃ gaps, HasGaps t (t.filled width) gaps) ∧
      (0 < width → ∀ line ∈ t.filled width, line.length ≤ width ∨ ' ' ∉ line) ∧
      (t.filled width = [] ↔ t = []) :=
  ⟨ends_filled width t, exists_hasGaps width t, fun hwidth _ => fits_of_mem_filled hwidth,
    filled_eq_nil_iff⟩

/-- A line break in front gives an empty line, and a word can be longer than the width. -/
theorem brokenText_loses_gaps_only :
    (0 : Int) < 3 ∧ filled 3 "\na \r\nbcdef gh " = [[], "a ", "bcdef", "gh"] ∧
      (∃ gaps, HasGaps "\na \r\nbcdef gh " [[], "a ", "bcdef", "gh"] gaps) ∧
      ∀ line ∈ ([[], "a ", "bcdef", "gh"] : List Text), line.length ≤ (3 : Int) ∨ ' ' ∉ line := by
  have hlines : filled 3 "\na \r\nbcdef gh " = [[], "a ", "bcdef", "gh"] := by
    decide +kernel
  obtain ⟨-, hgaps, hfits, -⟩ := filled_loses_gaps_only 3 "\na \r\nbcdef gh "
  rw [hlines] at hgaps hfits
  exact ⟨by decide, hlines, hgaps, hfits (by decide)⟩

end Text
end MessageCatalog
