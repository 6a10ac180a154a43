import MessageCatalog.Text.Basic

/-!
# Filled texts

A text is filled by breaking it into lines: at its own line breaks and, for a positive width, at
spaces. A long line ends at the last space that keeps it within the width; a word longer than the
width runs on to the next space. The white space at a break belongs to no line, and each turn takes
at least one character off the text, which is why filling ends.
-/

namespace MessageCatalog
namespace Text

/-- A line break character. -/
def isBreak (c : Char) : Bool :=
  c = '\r' || c = '\n'

/-- The characters that vanish between two filled lines. -/
def isGap (c : Char) : Bool :=
  c = ' ' || isBreak c

/-- The number of characters before the first one of the class. -/
def lengthBefore (p : Char → Bool) (t : Text) : Nat :=
  (t.takeWhile fun c => !p c).length

/-- The number of characters before the last space. -/
def lengthBeforeLastSpace (t : Text) : Option Nat :=
  (t.cutLast ' ').map fun (before, _) => before.length

/-- The length of the first filled line. -/
def lineLength (width : Int) (t : Text) : Nat :=
  let limit := lengthBefore isBreak t
  if 0 < width ∧ width ≤ limit then
    match lengthBeforeLastSpace (t.take (width.toNat + 1)) with
    | some n => n
    | none => lengthBefore (· = ' ') t
  else limit

/-- What is left after the first filled line and the gap behind it. -/
def afterLine (width : Int) (t : Text) : Text :=
  (t.drop (lineLength width t)).dropWhile isGap

theorem lengthBefore_eq_zero {p : Char → Bool} {c : Char} {t : Text}
    (h : lengthBefore p (c :: t) = 0) : p c = true := by
  by_cases hc : p c
  · exact hc
  · simp [lengthBefore, hc] at h

theorem cutLast_nil_before {c d : Char} {t : Text} {after : Text}
    (h : cutLast c (d :: t) = some ([], after)) : d = c := by
  unfold cutLast at h
  split at h
  · simp at h
  · split at h
    · assumption
    · simp at h

/-- An empty first line stands before a character that the gap behind it takes away. -/
theorem isGap_of_lineLength_eq_zero {width : Int} {c : Char} {t : Text}
    (h : lineLength width (c :: t) = 0) : isGap c = true := by
  unfold lineLength at h
  by_cases hw : 0 < width ∧ width ≤ (lengthBefore isBreak (c :: t) : Int)
  · simp only [hw, and_self, if_true] at h
    split at h
    · next n hn =>
      subst h
      simp only [lengthBeforeLastSpace, Option.map_eq_some_iff] at hn
      obtain ⟨⟨before, after⟩, hcut, hlen⟩ := hn
      simp only [List.length_eq_zero_iff] at hlen
      subst hlen
      obtain ⟨n, hn⟩ : ∃ n, width.toNat + 1 = n + 1 := ⟨_, rfl⟩
      rw [List.take_succ_cons] at hcut
      simp [isGap, cutLast_nil_before hcut]
    · have := lengthBefore_eq_zero h
      simp only [decide_eq_true_eq] at this
      simp [isGap, this]
  · simp only [hw, if_false] at h
    simp [isGap, lengthBefore_eq_zero h]

theorem length_afterLine_lt (width : Int) (c : Char) (t : Text) :
    (afterLine width (c :: t)).length < (c :: t).length := by
  unfold afterLine
  cases hn : lineLength width (c :: t) with
  | zero =>
      have hc := isGap_of_lineLength_eq_zero hn
      simp only [List.drop_zero, List.dropWhile_cons, hc, if_true, List.length_cons]
      have := (List.dropWhile_sublist isGap (l := t)).length_le
      omega
  | succ n =>
      have h₁ := (List.dropWhile_sublist isGap (l := (c :: t).drop (n + 1))).length_le
      simp only [List.length_drop, List.length_cons] at h₁ ⊢
      omega

/-- The lines of the text, broken at its line breaks and within the width where spaces allow. -/
def filled (width : Int) : Text → List Text
  | [] => []
  | c :: t => (c :: t).take (lineLength width (c :: t)) :: filled width (afterLine width (c :: t))
  termination_by t => t.length
  decreasing_by exact length_afterLine_lt width c t

end Text
end MessageCatalog
