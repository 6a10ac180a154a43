import Mathlib.Order.Lattice
import MessageCatalog.Proofs.Template.Index

/-!
# Numbers of arguments

A template has as many arguments as its highest index needs, counted from zero, and none if it has no
index. It has a signature exactly if a call can pass that many arguments and no index is too long to
be a number.

**Results.**
* `arity`, `arity_le_iff`: the number of arguments is the least bound of the indices.
* `signature_of_arity`: the signature of a template without too long an index.
-/

namespace MessageCatalog
namespace Template

variable {template a b : Text} {c : Char}

/-- The number of arguments that the indices of a template need. -/
def arity (template : Text) : Nat :=
  (indexRuns template).foldr (fun digits n => max (Text.digitsValue digits + 1) n) 0

/-- The number of arguments is the least one above all indices. -/
theorem arity_le_iff {n : Nat} :
    arity template ≤ n ↔ ∀ digits, IsIndexOf digits template → Text.digitsValue digits < n := by
  simp only [← mem_indexRuns_iff, arity]
  induction indexRuns template with
  | nil => simp
  | cons run runs ih =>
      rw [List.foldr_cons, Nat.max_le, ih, List.forall_mem_cons]
      rfl

theorem arity_eq_zero_iff : arity template = 0 ↔ ∀ digits, ¬ IsIndexOf digits template := by
  rw [← Nat.le_zero, arity_le_iff]
  exact forall_congr' fun digits => by simp

theorem lt_arity_iff {n : Nat} :
    n < arity template ↔ ∃ digits, IsIndexOf digits template ∧ n ≤ Text.digitsValue digits := by
  rw [← Nat.not_le, arity_le_iff]
  simp

theorem arity_eq_succ_iff {n : Nat} :
    arity template = n + 1 ↔ (∃ digits, IsIndexOf digits template ∧ Text.digitsValue digits = n) ∧
      ∀ digits, IsIndexOf digits template → Text.digitsValue digits ≤ n := by
  have hle : arity template ≤ n + 1 ↔
      ∀ digits, IsIndexOf digits template → Text.digitsValue digits ≤ n := by
    rw [arity_le_iff]
    simp only [Nat.lt_succ_iff]
  rw [← hle]
  constructor
  · intro h
    obtain ⟨digits, hindex, hdigits⟩ := lt_arity_iff.mp (Nat.lt_of_lt_of_eq n.lt_succ_self h.symm)
    exact ⟨⟨digits, hindex, Nat.le_antisymm (hle.mp h.le digits hindex) hdigits⟩, h.le⟩
  · rintro ⟨⟨digits, hindex, hdigits⟩, h⟩
    exact Nat.le_antisymm h (lt_arity_iff.mpr ⟨digits, hindex, hdigits.ge⟩)

theorem arity_append_cons (hbrace : c ≠ '\x7b') (hdigit : Text.isDigit c = false) (a b : Text) :
    arity (a ++ c :: b) = max (arity a) (arity b) := by
  refine eq_of_forall_ge_iff fun n => ?_
  simp only [Nat.max_le, arity_le_iff, isIndexOf_append_cons hbrace hdigit, or_imp, forall_and]

/-- The highest index is one less than the number of arguments. -/
theorem max?_values :
    ((indexRuns template).map Text.digitsValue).max? =
      if arity template = 0 then none else some (arity template - 1) := by
  cases hmax : ((indexRuns template).map Text.digitsValue).max? with
  | none =>
      have hnone : indexRuns template = [] := by simpa using hmax
      simp [arity, hnone]
  | some highest =>
      obtain ⟨hmem, hle⟩ := List.max?_eq_some_iff.mp hmax
      have harity : arity template = highest + 1 := by
        rw [arity_eq_succ_iff]
        simp only [← mem_indexRuns_iff]
        exact ⟨List.mem_map.mp hmem, fun digits h => hle _ (List.mem_map_of_mem h)⟩
      simp [harity]

/-- A template without too long an index has a signature if the managed runtime can pass as many
arguments, and the signature tells the kind of each argument. -/
theorem signature_of_arity (h : ¬ HasLongIndex template) :
    signature template =
      if arity template ≤ Signature.maxParameters then
        .ok ⟨(List.range (arity template)).map fun (index : Nat) => kindAt template index⟩
      else .error (.tooManyParameters (arity template - 1)) := by
  rw [← signature_eq_numberTooLong] at h
  unfold signature at h ⊢
  dsimp only at h ⊢
  rw [max?_values] at h ⊢
  by_cases hzero : arity template = 0
  · simp only [hzero, if_true] at h ⊢
    split at h
    · exact absurd rfl h
    · next hlong => simp [hlong]
  · have hpos : arity template - 1 + 1 = arity template := by omega
    simp only [hzero, if_false, hpos] at h ⊢
    split at h
    · exact absurd rfl h
    next hlong =>
      rw [if_neg hlong]
      by_cases hfew : arity template ≤ Signature.maxParameters
      · rw [if_pos hfew, if_pos (by omega)]
      · have hmany : ¬ arity template - 1 < Signature.maxParameters := by omega
        rw [if_neg hmany] at h
        rw [if_neg hfew, if_neg hmany]
        split at h
        · exact absurd rfl h
        next hwritten => rw [if_neg hwritten]

theorem signature_eq_ok_iff {s : Signature} :
    signature template = .ok s ↔ ¬ HasLongIndex template ∧
      arity template ≤ Signature.maxParameters ∧
      s = ⟨(List.range (arity template)).map fun (index : Nat) => kindAt template index⟩ := by
  by_cases hlong : HasLongIndex template
  · simp [signature_eq_numberTooLong.mpr hlong, hlong]
  · rw [signature_of_arity hlong]
    split
    next hfew => simp [hlong, hfew, eq_comm]
    next hmany => simp [hmany]

theorem exists_tooManyParameters_iff :
    (∃ highest, signature template = .error (.tooManyParameters highest)) ↔
      ¬ HasLongIndex template ∧ Signature.maxParameters < arity template := by
  by_cases hlong : HasLongIndex template
  · simp [signature_eq_numberTooLong.mpr hlong, hlong]
  · rw [signature_of_arity hlong]
    split
    next hfew => simp [Nat.not_lt.mpr hfew]
    next hmany => simp [hlong, Nat.not_le.mp hmany]

end Template
end MessageCatalog
