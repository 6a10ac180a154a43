import MessageCatalog.Proofs.Text.Occurrence
import MessageCatalog.Proofs.Text.Part
import MessageCatalog.Text.Filled
import Mathlib.Data.List.TakeWhile

/-!
# What filling keeps

Filling takes nothing off a text but the gaps between its lines. Wherever a line ends, at a line break
of the text, at the last space within the width or at the first one behind it, the character that
comes next belongs to the gap, so that no run of other characters is ever cut in two.

**Results.**
* `isGap_of_drop_lineLength`: what stands behind the first line.
* `BreaksInto`, `breaksInto_filled`: a text is its filled lines and the gaps behind them in turn.
* `infix_filled_iff`: a word occurs in a text exactly if it occurs in one of its filled lines.
-/

namespace MessageCatalog
namespace Text

variable {width : Int} {t word : Text} {lines : List Text} {c : Char} {rest : Text}

theorem drop_lengthBefore (p : Char → Bool) (t : Text) :
    t.drop (lengthBefore p t) = t.dropWhile fun c => !p c := by
  calc t.drop (lengthBefore p t)
      = ((t.takeWhile fun c => !p c) ++ t.dropWhile fun c => !p c).drop (lengthBefore p t) := by
        rw [List.takeWhile_append_dropWhile]
    _ = t.dropWhile fun c => !p c := List.drop_left

theorem of_drop_lengthBefore {p : Char → Bool} (h : t.drop (lengthBefore p t) = c :: rest) :
    p c = true := by
  have hfirst := List.head?_dropWhile_not (fun c => !p c) t
  rw [← drop_lengthBefore, h] at hfirst
  simpa using hfirst

/-- The last space within a number of characters stands behind those that are counted. -/
theorem drop_of_lengthBeforeLastSpace {m n : Nat} (h : lengthBeforeLastSpace (t.take m) = some n) :
    ∃ rest, t.drop n = ' ' :: rest := by
  obtain ⟨⟨before, after⟩, hcut, rfl⟩ := Option.map_eq_some_iff.mp h
  obtain ⟨-, htake⟩ := cutLast_eq_some_iff.mp hcut
  have ht : t = before ++ ' ' :: (after ++ t.drop m) := by
    rw [← List.cons_append, ← List.append_assoc, ← htake, List.take_append_drop]
  exact ⟨after ++ t.drop m, (congrArg (List.drop before.length) ht).trans List.drop_left⟩

/-- A last space is no further behind than the characters in which it is sought. -/
theorem lt_of_lengthBeforeLastSpace {m n : Nat} (h : lengthBeforeLastSpace (t.take m) = some n) :
    n < m := by
  obtain ⟨⟨before, after⟩, hcut, rfl⟩ := Option.map_eq_some_iff.mp h
  have hlength := congrArg List.length (cutLast_eq_some_iff.mp hcut).2
  simp only [List.length_take, List.length_append, List.length_cons] at hlength
  dsimp only
  omega

/-- A line ends in front of a gap, if not at the end of the text. -/
theorem isGap_of_drop_lineLength (h : t.drop (lineLength width t) = c :: rest) :
    isGap c = true := by
  unfold lineLength at h
  dsimp only at h
  split at h
  · split at h
    next n hspace =>
      obtain ⟨rest', hrest⟩ := drop_of_lengthBeforeLastSpace hspace
      obtain rfl : ' ' = c := (List.cons.inj (hrest.symm.trans h)).1
      rfl
    next =>
      obtain rfl : c = ' ' := of_decide_eq_true (of_drop_lengthBefore h)
      rfl
  · rw [isGap, of_drop_lengthBefore h, Bool.or_true]

/-- The text is the lines in order, each with a gap behind it. Only behind the last line may the gap
be missing. -/
inductive BreaksInto : Text → List Text → Prop
  | nil : BreaksInto [] []
  | cons {line gap rest : Text} {lines : List Text} (gaps : ∀ c ∈ gap, isGap c = true)
      (last : gap = [] → rest = []) (others : BreaksInto rest lines) :
      BreaksInto (line ++ (gap ++ rest)) (line :: lines)

/-- Behind the first line stand a gap and the text that is filled next. -/
theorem exists_gap (width : Int) (t : Text) :
    ∃ gap, t = t.take (lineLength width t) ++ (gap ++ afterLine width t) ∧
      (∀ c ∈ gap, isGap c = true) ∧ (gap = [] → afterLine width t = []) := by
  refine ⟨(t.drop (lineLength width t)).takeWhile isGap, ?_, fun c => List.mem_takeWhile_imp, ?_⟩
  · rw [afterLine, List.takeWhile_append_dropWhile, List.take_append_drop]
  · intro hgap
    rw [afterLine]
    cases hdrop : t.drop (lineLength width t) with
    | nil => rfl
    | cons c rest =>
        rw [hdrop, List.takeWhile_cons, if_pos (isGap_of_drop_lineLength hdrop)] at hgap
        cases hgap

theorem breaksInto_filled (width : Int) (t : Text) : BreaksInto t (t.filled width) := by
  induction t using filled.induct width with
  | case1 =>
      rw [filled]
      exact .nil
  | case2 c t ih =>
      rw [filled]
      obtain ⟨gap, hsplit, hgaps, hlast⟩ := exists_gap width (c :: t)
      have hcons : BreaksInto ((c :: t).take (lineLength width (c :: t)) ++
          (gap ++ afterLine width (c :: t))) _ := .cons hgaps hlast ih
      rwa [← hsplit] at hcons

/-- A word has characters, none of which belongs to a gap. -/
structure IsWord (word : Text) : Prop where
  ne_nil : word ≠ []
  isGap : ∀ c ∈ word, isGap c = false

theorem BreaksInto.infix_iff (h : BreaksInto t lines) (hword : IsWord word) :
    word <:+: t ↔ ∃ line ∈ lines, word <:+: line := by
  induction h with
  | nil => simp [hword.ne_nil]
  | @cons line gap rest lines gaps last _ ih =>
      simp only [List.mem_cons, exists_eq_or_imp, ← ih]
      by_cases hgap : gap = []
      · subst hgap
        rw [last rfl, List.append_nil, List.append_nil, List.infix_nil, or_iff_left hword.ne_nil]
      · refine infix_append_append_iff hword.ne_nil hgap fun c hc hmem => ?_
        exact Bool.eq_false_iff.mp (hword.isGap c hmem) (gaps c hc)

/-- Filling cuts no word in two and makes none. -/
theorem infix_filled_iff (width : Int) (t : Text) (hword : IsWord word) :
    (∃ line ∈ t.filled width, word <:+: line) ↔ word <:+: t :=
  ((breaksInto_filled width t).infix_iff hword).symm

end Text
end MessageCatalog
