import Mathlib.Algebra.Ring.Nat
import Mathlib.Data.List.Basic
import MessageCatalog.Text.Digit

/-!
# Decimal numbers

A run of digits denotes a number, and a number is written by ASCII digits of which the first is no
superfluous zero. Writing is undone by reading, and reading by writing if the digits are such as are
written.

**Results.**
* `digitsValue_lt`: a run of digits denotes a number with no more digits.
* `ten_mul_digitsValue_le`: a run that goes on denotes at least ten times the number.
* `digitsValue_ofNat`, `ofNat_digitsValue`: reading and writing numbers are inverse to each other.
-/

namespace MessageCatalog
namespace Text

variable {c : Char} {digits : Text} {n : Nat}

theorem digitValue?_getD_le (c : Char) : (digitValue? c).getD 0 ≤ 9 := by
  unfold digitValue?
  cases hfind : zeroCodes.find? fun first => first ≤ c.toNat && c.toNat < first + 10 with
  | none => simp
  | some first =>
      have hfirst := List.find?_some hfind
      simp only [Bool.and_eq_true, decide_eq_true_eq] at hfirst
      simp only [Option.map_some, Option.getD_some]
      omega

/-- A run of digits denotes a number with no more digits. -/
theorem digitsValue_lt (digits : Text) : digitsValue digits < 10 ^ digits.length := by
  have hfold : ∀ n, digits.foldl (fun n c => 10 * n + (digitValue? c).getD 0) n <
      (n + 1) * 10 ^ digits.length := by
    induction digits with
    | nil =>
        intro n
        simp
    | cons c digits ih =>
        intro n
        have hc := digitValue?_getD_le c
        have hle : (10 * n + (digitValue? c).getD 0 + 1) * 10 ^ digits.length ≤
            ((n + 1) * 10) * 10 ^ digits.length :=
          Nat.mul_le_mul_right _ (by omega)
        calc
          _ < (10 * n + (digitValue? c).getD 0 + 1) * 10 ^ digits.length := ih _
          _ ≤ ((n + 1) * 10) * 10 ^ digits.length := hle
          _ = (n + 1) * 10 ^ (c :: digits).length := by
            rw [List.length_cons, Nat.pow_succ, Nat.mul_assoc, Nat.mul_comm 10]
  simpa [digitsValue] using hfold 0

theorem le_foldl_digits (digits : Text) (n : Nat) :
    n ≤ digits.foldl (fun n c => 10 * n + (digitValue? c).getD 0) n := by
  induction digits generalizing n with
  | nil => exact Nat.le_refl n
  | cons c digits ih =>
      have hstep : n ≤ 10 * n + (digitValue? c).getD 0 := by omega
      exact Nat.le_trans hstep (ih _)

/-- A run that goes on behind some digits denotes at least ten times their number. -/
theorem ten_mul_digitsValue_le (digits : Text) (c : Char) (more : Text) :
    10 * digitsValue digits ≤ digitsValue (digits ++ c :: more) := by
  rw [digitsValue, digitsValue, List.foldl_append, List.foldl_cons]
  exact Nat.le_trans (Nat.le_add_right _ _) (le_foldl_digits more _)

/-- An ASCII digit has its place among the ASCII digits as value. -/
theorem digitValue?_of_isDigit (h : c.isDigit = true) :
    digitValue? c = some (c.toNat - '0'.toNat) := by
  obtain ⟨hzero, hnine⟩ := Char.isDigit_iff_toNat.mp h
  have hblock : (0x30 ≤ c.toNat && c.toNat < 0x30 + 10) = true := by
    simp only [Bool.and_eq_true, decide_eq_true_eq]
    exact ⟨hzero, Nat.lt_succ_of_le hnine⟩
  have hfind : zeroCodes.find? (fun first => first ≤ c.toNat && c.toNat < first + 10) =
      some 0x30 := List.find?_cons_of_pos hblock
  rw [digitValue?, hfind]
  rfl

theorem isDigit_of_ascii (h : c.isDigit = true) : isDigit c = true := by
  rw [isDigit, digitValue?_of_isDigit h]
  rfl

theorem isDigit_of_mem_ofNat {n : Nat} {c : Char} (h : c ∈ ofNat n) : c.isDigit = true :=
  Nat.isDigit_of_mem_toDigits (by decide) (by decide) h

theorem ofNat_ne_nil (n : Nat) : ofNat n ≠ [] :=
  Nat.toDigits_ne_nil

theorem digitsValue_ofNat (n : Nat) : digitsValue (ofNat n) = n := by
  have hread : digitsValue (ofNat n) = Nat.ofDigitChars 10 (ofNat n) 0 := by
    rw [Nat.ofDigitChars_eq_foldl]
    refine List.foldl_ext _ _ 0 fun m c hc => ?_
    rw [digitValue?_of_isDigit (isDigit_of_mem_ofNat hc)]
    rfl
  rw [hread, ofNat, Nat.ofDigitChars_ten_toDigits]

theorem ofNat_injective {n n' : Nat} (h : ofNat n = ofNat n') : n = n' := by
  rw [← digitsValue_ofNat n, h, digitsValue_ofNat]

/-- The digits are ASCII, and the first of them is no zero unless it stands alone. -/
structure IsDecimal (digits : Text) : Prop where
  ascii : ∀ c ∈ digits, c.isDigit = true
  leading : digits.head? = some '0' → digits = ['0']

/-- An ASCII digit is what is written for its value. -/
theorem ofNat_digit (hc : c.isDigit = true) : ofNat ((digitValue? c).getD 0) = [c] := by
  obtain ⟨hzero, hnine⟩ := Char.isDigit_iff_toNat.mp hc
  change 48 ≤ c.toNat at hzero
  change c.toNat ≤ 57 at hnine
  rw [digitValue?_of_isDigit hc, Option.getD_some]
  change ofNat (c.toNat - 48) = [c]
  have hvalue : c.toNat - 48 < 10 := by omega
  have hchar : Nat.digitChar (c.toNat - 48) = c := by
    rw [← Char.toNat_inj, Nat.toNat_digitChar_of_lt_ten hvalue]
    omega
  rw [ofNat, Nat.toDigits_of_lt_base hvalue, hchar]

/-- The digits behind a number are written as they stand. -/
theorem ofNat_append (hn : 0 < n) (h : ∀ c ∈ digits, c.isDigit = true) :
    ofNat n ++ digits = ofNat (digits.foldl (fun n c => 10 * n + (digitValue? c).getD 0) n) := by
  induction digits generalizing n with
  | nil => exact List.append_nil _
  | cons c digits ih =>
      obtain ⟨hc, hdigits⟩ := List.forall_mem_cons.mp h
      have hvalue : (digitValue? c).getD 0 < 10 := Nat.lt_succ_of_le (digitValue?_getD_le c)
      have hstep : ofNat n ++ [c] = ofNat (10 * n + (digitValue? c).getD 0) := by
        rw [← ofNat_digit hc]
        exact Nat.toDigits_append_toDigits (by decide) hn hvalue
      rw [List.foldl_cons, ← ih (by omega) hdigits, ← hstep, List.append_assoc]
      rfl

/-- Digits as numbers are written by are what is written for their number. -/
theorem ofNat_digitsValue (h : IsDecimal digits) (hne : digits ≠ []) :
    ofNat (digitsValue digits) = digits := by
  cases digits with
  | nil => exact absurd rfl hne
  | cons c digits =>
      obtain ⟨hc, hdigits⟩ := List.forall_mem_cons.mp h.ascii
      by_cases hzero : c = '0'
      · subst hzero
        rw [h.leading rfl]
        decide
      · -- the first digit is positive, so that the others go on from its number
        have hpos : 0 < (digitValue? c).getD 0 := by
          refine Nat.pos_of_ne_zero fun hvalue => hzero ?_
          have hdigit := ofNat_digit hc
          rw [hvalue] at hdigit
          exact (List.head_eq_of_cons_eq hdigit).symm
        rw [digitsValue, List.foldl_cons, Nat.mul_zero, Nat.zero_add, ← ofNat_append hpos hdigits,
          ofNat_digit hc]
        rfl

end Text
end MessageCatalog
