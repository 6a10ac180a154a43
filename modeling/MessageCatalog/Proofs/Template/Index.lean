import MessageCatalog.Proofs.Text.Decimal
import MessageCatalog.Template.Signature

/-!
# Indices

An index of a template is a run of digits behind an opening brace, taken as far as the digits go. It
is converted to a number, and the number of parameters it needs may have to be written. Both
conversions are limited to a number of digits. This module says which templates meet the limit: those
with an index that has more digits, or that is the largest number with as many.

**Results.**
* `IsIndexOf`, `mem_indexRuns_iff`: what the scan for indices finds.
* `IsLong`, `HasLongIndex`: the indices that meet the limit, and the templates that have one.
* `signature_eq_numberTooLong`: a template meets the limit exactly if it has an index that long.
-/

namespace MessageCatalog

namespace Template

variable {template digits a b : Text} {c : Char}

/-- The digits are those that directly follow some opening brace of the template, all of them. -/
structure IsIndexOf (digits template : Text) : Prop where
  ne_nil : digits ≠ []
  follows : ∃ before after, template = before ++ '\x7b' :: after ∧
    digits = after.takeWhile Text.isDigit

theorem not_isIndexOf_nil : ¬ IsIndexOf digits [] := by
  rintro ⟨-, before, after, h, -⟩
  simp at h

/-- An index of a longer template stands at its first brace or is one of the rest. -/
theorem isIndexOf_cons_iff :
    IsIndexOf digits (c :: template) ↔
      (c = '\x7b' ∧ digits = template.takeWhile Text.isDigit ∧ digits ≠ []) ∨
        IsIndexOf digits template := by
  constructor
  · rintro ⟨hne, before, after, h, hdigits⟩
    cases before with
    | nil =>
        obtain ⟨rfl, rfl⟩ := List.cons_eq_cons.mp h
        exact .inl ⟨rfl, hdigits, hne⟩
    | cons d before => exact .inr ⟨hne, before, after, List.tail_eq_of_cons_eq h, hdigits⟩
  · rintro (⟨rfl, hdigits, hne⟩ | ⟨hne, before, after, rfl, hdigits⟩)
    · exact ⟨hne, [], template, rfl, hdigits⟩
    · exact ⟨hne, c :: before, after, rfl, hdigits⟩

theorem mem_indexRuns_iff : digits ∈ indexRuns template ↔ IsIndexOf digits template := by
  induction template with
  | nil => simp [indexRuns, not_isIndexOf_nil]
  | cons c template ih =>
      rw [indexRuns, isIndexOf_cons_iff, ← ih]
      by_cases hc : c = '\x7b'
      · rw [if_pos hc]
        cases template.takeWhile Text.isDigit with
        | nil => simp +contextual
        | cons d run =>
            have hne : digits = d :: run → digits ≠ [] := fun h => by simp [h]
            rw [List.mem_cons]
            exact or_congr_left ⟨fun h => ⟨hc, h, hne h⟩, fun h => h.2.1⟩
      · rw [if_neg hc]
        simp [hc]

theorem IsIndexOf.append_left (h : IsIndexOf digits template) (before : Text) :
    IsIndexOf digits (before ++ template) := by
  obtain ⟨hne, before', after, rfl, hdigits⟩ := h
  exact ⟨hne, before ++ before', after, (List.append_assoc _ _ _).symm, hdigits⟩

theorem takeWhile_append_cons {p : Char → Bool} (hc : p c = false) (a b : Text) :
    (a ++ c :: b).takeWhile p = a.takeWhile p := by
  rw [List.takeWhile_append, List.takeWhile_cons_of_neg (by simp [hc]), List.append_nil]
  split
  next hlength => exact ((List.takeWhile_prefix p).eq_of_length hlength).symm
  next => rfl

/-- No index reaches over a character that is neither a digit nor an opening brace. -/
theorem isIndexOf_append_cons (hbrace : c ≠ '\x7b') (hdigit : Text.isDigit c = false) :
    IsIndexOf digits (a ++ c :: b) ↔ IsIndexOf digits a ∨ IsIndexOf digits b := by
  induction a with
  | nil => simp [isIndexOf_cons_iff, hbrace, not_isIndexOf_nil]
  | cons d a ih =>
      rw [List.cons_append, isIndexOf_cons_iff, isIndexOf_cons_iff, takeWhile_append_cons hdigit,
        ih, or_assoc]

/-- The digits are not converted, or are those of the largest number that is: then the number of
parameters is never written. -/
def IsLong (digits : Text) : Prop :=
  Text.maxDigits < digits.length ∨ Text.digitsValue digits + 1 = 10 ^ Text.maxDigits

/-- Some index of the template is that long. -/
def HasLongIndex (template : Text) : Prop :=
  ∃ digits, IsIndexOf digits template ∧ IsLong digits

/-- A number has too many digits exactly if it is no less than the first one that has. -/
theorem maxDigits_lt_length_ofNat {n : Nat} :
    Text.maxDigits < (Text.ofNat n).length ↔ 10 ^ Text.maxDigits ≤ n := by
  have hpos : 0 < Text.maxDigits := by decide
  have hshort := Nat.length_toDigits_le_iff (b := 10) (n := n) (by decide) hpos
  rw [← Nat.not_lt (a := n), ← hshort]
  exact Nat.not_le.symm

theorem maxParameters_lt : Signature.maxParameters < 10 ^ Text.maxDigits := by
  have hsmall : Signature.maxParameters < 10 ^ 3 := by decide
  exact Nat.lt_of_lt_of_le hsmall (Nat.pow_le_pow_right (by decide) (by decide))

theorem not_isLong (hlength : digits.length ≤ Text.maxDigits)
    (hvalue : Text.digitsValue digits < Signature.maxParameters) : ¬ IsLong digits := by
  rintro (hlong | hlargest)
  · exact Nat.not_lt.mpr hlength hlong
  · have hbound := Nat.lt_of_le_of_lt hvalue maxParameters_lt
    rw [← hlargest] at hbound
    exact Nat.lt_irrefl _ hbound

/-- If every index is converted, only the successor of the highest one can be too long. -/
theorem hasLongIndex_iff_of_short
    (hlength : ∀ digits ∈ indexRuns template, digits.length ≤ Text.maxDigits) {highest : Nat}
    (hmax : ((indexRuns template).map Text.digitsValue).max? = some highest) :
    HasLongIndex template ↔ 10 ^ Text.maxDigits ≤ highest + 1 := by
  obtain ⟨hmem, hhighest⟩ := List.max?_eq_some_iff.mp hmax
  constructor
  · rintro ⟨digits, hindex, hlong | hlargest⟩
    · exact absurd hlong (Nat.not_lt.mpr (hlength digits (mem_indexRuns_iff.mpr hindex)))
    · rw [← hlargest]
      exact Nat.succ_le_succ
        (hhighest _ (List.mem_map_of_mem (mem_indexRuns_iff.mpr hindex)))
  · intro hreached
    obtain ⟨digits, hrun, rfl⟩ := List.mem_map.mp hmem
    have hvalue : Text.digitsValue digits + 1 ≤ 10 ^ Text.maxDigits :=
      Nat.le_trans (Text.digitsValue_lt digits)
        (Nat.pow_le_pow_right (by decide) (hlength digits hrun))
    exact ⟨digits, mem_indexRuns_iff.mp hrun, .inr (Nat.le_antisymm hvalue hreached)⟩

/-- A template meets the limit exactly if one of its indices is that long. -/
theorem signature_eq_numberTooLong :
    signature template = .error .numberTooLong ↔ HasLongIndex template := by
  unfold signature
  by_cases hany : ((indexRuns template).any fun digits => Text.maxDigits < digits.length) = true
  · simp only [hany, if_true, true_iff]
    obtain ⟨digits, hmem, hlong⟩ := List.any_eq_true.mp hany
    exact ⟨digits, mem_indexRuns_iff.mp hmem, .inl (of_decide_eq_true hlong)⟩
  · have hlength : ∀ digits ∈ indexRuns template, digits.length ≤ Text.maxDigits := by
      intro digits hmem
      exact Nat.not_lt.mp fun hlong =>
        hany (List.any_eq_true.mpr ⟨digits, hmem, decide_eq_true hlong⟩)
    simp only [hany, Bool.false_eq_true, if_false]
    cases hmax : ((indexRuns template).map Text.digitsValue).max? with
    | none =>
        have hnone : indexRuns template = [] := by simpa using hmax
        simp [HasLongIndex, ← mem_indexRuns_iff, hnone]
    | some highest =>
        rw [hasLongIndex_iff_of_short hlength hmax]
        by_cases hfew : highest < Signature.maxParameters
        · have hbelow : ¬ 10 ^ Text.maxDigits ≤ highest + 1 :=
            Nat.not_le.mpr (Nat.lt_of_le_of_lt hfew maxParameters_lt)
          simp [hfew, hbelow]
        · by_cases hwritten : Text.maxDigits < (Text.ofNat (highest + 1)).length
          · simp [hfew, hwritten, maxDigits_lt_length_ofNat.mp hwritten]
          · have hbelow := mt maxDigits_lt_length_ofNat.mpr hwritten
            simp [hfew, hwritten, hbelow]

end Template
end MessageCatalog
