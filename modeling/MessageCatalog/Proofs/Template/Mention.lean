import Mathlib.Data.List.TakeWhile
import MessageCatalog.Proofs.Template.Arity
import MessageCatalog.Proofs.Template.Keyword

/-!
# Mentions of arguments

The number of arguments comes from the indices of a template, read as numbers, and the kind of an
argument from the last place at which a brace and the digits of its position stand, which may be the
beginning of a longer index. When the indices are written as numbers are, the two readings fit
together: an argument is mentioned exactly where an index begins with its digits, and no index can
begin with those of the highest one and go on, since it would be higher.

**Results.**
* `token_isInfix_iff`: the mentions of an argument are the indices that begin with its digits.
* `IsHighestIndexOf.exists_isBehindLastIndex`: where the highest argument is mentioned last.
* `isLong_nines`: an index can be too long with no more digits than a number may have.
* `signature_of_indices`: the length of a signature, its errors, and its unmentioned arguments.
-/

namespace MessageCatalog
namespace Template

variable {template digits rest : Text} {index : Nat}

/-- An argument is mentioned where an index begins with the digits of its position. -/
theorem token_isInfix_iff :
    token index <:+: template ↔
      ∃ digits, IsIndexOf digits template ∧ Text.ofNat index <+: digits := by
  constructor
  · rintro ⟨before, after, rfl⟩
    have hdigits : (Text.ofNat index ++ after).takeWhile Text.isDigit =
        Text.ofNat index ++ after.takeWhile Text.isDigit :=
      List.takeWhile_append_of_pos fun c hc => Text.isDigit_of_ascii (Text.isDigit_of_mem_ofNat hc)
    refine ⟨(Text.ofNat index ++ after).takeWhile Text.isDigit, ⟨?_, before, _, ?_, rfl⟩, ?_⟩
    · rw [hdigits]
      exact List.append_ne_nil_of_left_ne_nil (Text.ofNat_ne_nil index) _
    · rw [List.append_assoc]
      rfl
    · rw [hdigits]
      exact List.prefix_append _ _
  · rintro ⟨digits, ⟨-, before, after, rfl, rfl⟩, hprefix⟩
    obtain ⟨tail, rfl⟩ := hprefix.trans (List.takeWhile_prefix Text.isDigit)
    exact ⟨before, tail, by rw [List.append_assoc]; rfl⟩

/-- No index of the template is higher. -/
structure IsHighestIndexOf (digits template : Text) : Prop extends IsIndexOf digits template where
  highest : ∀ digits', IsIndexOf digits' template →
    Text.digitsValue digits' ≤ Text.digitsValue digits

/-- The text stands behind the last index of the template with the given number, which is written by
the digits and by no further one. -/
structure IsBehindLastIndex (template digits rest : Text) : Prop where
  follows : ∃ before, template = before ++ '\x7b' :: (digits ++ rest)
  ends : ∀ c ∈ rest.head?, Text.isDigit c = false
  last : ∀ digits', IsIndexOf digits' rest → Text.digitsValue digits' ≠ Text.digitsValue digits

theorem IsHighestIndexOf.arity_eq (h : IsHighestIndexOf digits template) :
    arity template = Text.digitsValue digits + 1 :=
  arity_eq_succ_iff.mpr ⟨⟨digits, h.toIsIndexOf, rfl⟩, h.highest⟩

/-- No digit follows the highest index where it stands: the longer index would be higher, since the
digits do not begin with a superfluous zero. -/
theorem IsHighestIndexOf.not_continued (h : IsHighestIndexOf digits template)
    (hdecimal : ∀ digits, IsIndexOf digits template → Text.IsDecimal digits) {before : Text}
    {c : Char} (hc : Text.isDigit c = true) :
    template ≠ before ++ '\x7b' :: (digits ++ c :: rest) := by
  intro htemplate
  have hdigits : ∀ d ∈ digits, Text.isDigit d = true := fun d hd =>
    Text.isDigit_of_ascii ((hdecimal digits h.toIsIndexOf).ascii d hd)
  have hlonger : IsIndexOf (digits ++ c :: rest.takeWhile Text.isDigit) template := by
    refine ⟨by simp, before, _, htemplate, ?_⟩
    rw [List.takeWhile_append_of_pos hdigits, List.takeWhile_cons_of_pos hc]
  have hhigher := Text.ten_mul_digitsValue_le digits c (rest.takeWhile Text.isDigit)
  have hzero : Text.digitsValue digits = 0 := by
    have hle := h.highest _ hlonger
    omega
  have hdigit : digits = ['0'] := by
    rw [← Text.ofNat_digitsValue (hdecimal digits h.toIsIndexOf) h.ne_nil, hzero]
    rfl
  have hwhole := (hdecimal _ hlonger).leading (by rw [hdigit]; rfl)
  rw [hdigit] at hwhole
  cases hwhole

/-- An index is not found again behind its last mention. -/
theorem not_isIndexOf_behind (h : Text.IsBehindLast template ('\x7b' :: digits) rest) :
    ¬ IsIndexOf digits rest := by
  rintro ⟨-, before', after, hrest, hdigits⟩
  obtain ⟨before, htemplate⟩ := h.occurs
  obtain ⟨tail, htail⟩ : digits <+: after := hdigits ▸ List.takeWhile_prefix Text.isDigit
  have hlength := h.last (before ++ '\x7b' :: (digits ++ before')) tail (by
    rw [htemplate, hrest, ← htail]
    simp)
  rw [hrest, ← htail] at hlength
  simp only [List.length_append, List.length_cons] at hlength
  omega

/-- The last mention of the highest argument is its last index. -/
theorem IsHighestIndexOf.exists_isBehindLastIndex (h : IsHighestIndexOf digits template)
    (hdecimal : ∀ digits, IsIndexOf digits template → Text.IsDecimal digits) :
    ∃ rest, IsBehindLastIndex template digits rest ∧
      kindAt template (Text.digitsValue digits) = kindBehind rest := by
  have hwritten : ∀ digits', IsIndexOf digits' template →
      Text.ofNat (Text.digitsValue digits') = digits' := fun digits' hindex =>
    Text.ofNat_digitsValue (hdecimal digits' hindex) hindex.ne_nil
  have htoken : token (Text.digitsValue digits) = '\x7b' :: digits :=
    congrArg ('\x7b' :: ·) (hwritten digits h.toIsIndexOf)
  have hmentioned : token (Text.digitsValue digits) <:+: template :=
    token_isInfix_iff.mpr ⟨digits, h.toIsIndexOf, [], by
      rw [hwritten digits h.toIsIndexOf, List.append_nil]⟩
  cases hlast : template.afterLast (token (Text.digitsValue digits)) with
  | none => exact absurd hmentioned (Text.afterLast_eq_none_iff.mp hlast)
  | some rest =>
      have hbehind := Text.afterLast_eq_some_iff.mp hlast
      refine ⟨rest, ?_, kindAt_of_isBehindLast hbehind⟩
      rw [htoken] at hbehind
      obtain ⟨before, htemplate⟩ := hbehind.occurs
      refine ⟨⟨before, htemplate⟩, fun c hc => ?_, fun digits' hindex hvalue => ?_⟩
      · rw [← Bool.not_eq_true]
        intro hdigit
        obtain ⟨tail, rfl⟩ := List.head?_eq_some_iff.mp hc
        exact h.not_continued hdecimal hdigit htemplate
      · have hindex' : IsIndexOf digits' template := by
          rw [htemplate, ← List.append_assoc]
          exact hindex.append_left _
        have hsame : digits' = digits := by
          rw [← hwritten digits' hindex', hvalue, hwritten digits h.toIsIndexOf]
        rw [hsame] at hindex
        exact not_isIndexOf_behind hbehind hindex

/-- The nines of the largest number with as many digits. -/
theorem digitsValue_nines (n : Nat) : Text.digitsValue (List.replicate n '9') + 1 = 10 ^ n := by
  induction n with
  | zero => rfl
  | succ n ih =>
      have hnine : (Text.digitValue? '9').getD 0 = 9 := by decide +kernel
      rw [List.replicate_succ', Text.digitsValue, List.foldl_append, ← Text.digitsValue, pow_succ,
        ← ih]
      simp only [List.foldl_cons, List.foldl_nil, hnine]
      omega

/-- An index that has as many digits as a number may have is too long if they are nines. -/
theorem isLong_nines : IsLong (List.replicate Text.maxDigits '9') :=
  .inr (digitsValue_nines _)

theorem isIndexOf_nines :
    IsIndexOf (List.replicate Text.maxDigits '9')
      ('\x7b' :: List.replicate Text.maxDigits '9') := by
  have hnines : ∀ c ∈ List.replicate Text.maxDigits '9', Text.isDigit c = true := by
    intro c hc
    rw [List.eq_of_mem_replicate hc]
    decide +kernel
  have hne : List.replicate Text.maxDigits '9' ≠ [] := by
    rw [Ne, List.replicate_eq_nil_iff]
    decide
  exact ⟨hne, [], _, rfl, (List.takeWhile_eq_self_iff.mpr hnines).symm⟩

/-- A template has no index, or a highest one. -/
theorem arity_cases (template : Text) :
    (∀ digits, ¬ IsIndexOf digits template) ∧ arity template = 0 ∨
      ∃ digits, IsHighestIndexOf digits template ∧
        arity template = Text.digitsValue digits + 1 := by
  cases harity : arity template with
  | zero => exact .inl ⟨arity_eq_zero_iff.mp harity, rfl⟩
  | succ n =>
      obtain ⟨⟨digits, hindex, rfl⟩, hhighest⟩ := arity_eq_succ_iff.mp harity
      exact .inr ⟨digits, ⟨hindex, hhighest⟩, rfl⟩

/-- A template with too long an index is refused for that. Any other one is refused exactly if it
has an index that no call can pass, and has a signature otherwise, which is empty if there is no
index and goes up to the highest one if there is any. If the indices are written as numbers are, an
argument is not mentioned, and of unknown kind for that, exactly if no index begins with the digits
of its position, and the kind of the last argument is read behind the last index that is the highest
one. -/
theorem signature_of_indices (template : Text) :
    (signature template = .error .numberTooLong ↔
      ∃ digits, IsIndexOf digits template ∧ IsLong digits) ∧
    ((∀ digits, IsIndexOf digits template → ¬ IsLong digits) →
      ((∃ highest, signature template = .error (.tooManyParameters highest)) ↔
        ∃ digits, IsIndexOf digits template ∧
          Signature.maxParameters ≤ Text.digitsValue digits)) ∧
    ((∀ digits, IsIndexOf digits template →
        ¬ IsLong digits ∧ Text.digitsValue digits < Signature.maxParameters) →
      ∃ s, signature template = .ok s ∧
        ((∀ digits, ¬ IsIndexOf digits template) ∧ s.kinds.length = 0 ∨
          ∃ digits, IsHighestIndexOf digits template ∧
            s.kinds.length = Text.digitsValue digits + 1)) ∧
    ((∀ digits, IsIndexOf digits template → Text.IsDecimal digits) →
      ∀ s, signature template = .ok s →
        (∀ i (hi : i < s.kinds.length),
          (¬ token i <:+: template ↔
            ∀ digits, IsIndexOf digits template → ¬ Text.ofNat i <+: digits) ∧
          (¬ token i <:+: template → s.kinds[i] = .unknown)) ∧
        ∀ digits, IsHighestIndexOf digits template →
          ∃ rest, IsBehindLastIndex template digits rest ∧
            s.kinds.getLast? = some (kindBehind rest)) := by
  have hnotLong : (∀ digits, IsIndexOf digits template → ¬ IsLong digits) →
      ¬ HasLongIndex template := by
    rintro hshort ⟨digits, hindex, hlong⟩
    exact hshort digits hindex hlong
  refine ⟨?_, fun hshort => ?_, fun hfew => ?_, fun hdecimal s hs => ⟨fun i hi => ⟨?_, ?_⟩, ?_⟩⟩
  · exact signature_eq_numberTooLong
  · rw [exists_tooManyParameters_iff, lt_arity_iff]
    exact and_iff_right (hnotLong hshort)
  · have hlong := hnotLong fun digits hindex => (hfew digits hindex).1
    have harity := arity_le_iff.mpr fun digits hindex => (hfew digits hindex).2
    refine ⟨_, signature_eq_ok_iff.mpr ⟨hlong, harity, rfl⟩, ?_⟩
    rw [List.length_map, List.length_range]
    exact arity_cases template
  · rw [token_isInfix_iff]
    simp only [not_exists, not_and]
  · intro hmissing
    obtain ⟨-, -, rfl⟩ := signature_eq_ok_iff.mp hs
    simpa using kindAt_of_not_isInfix hmissing
  · intro digits hhighest
    obtain ⟨-, -, rfl⟩ := signature_eq_ok_iff.mp hs
    obtain ⟨rest, hbehind, hkind⟩ := hhighest.exists_isBehindLastIndex hdecimal
    refine ⟨rest, hbehind, ?_⟩
    rw [hhighest.arity_eq, List.range_succ, List.map_append, List.map_singleton,
      List.getLast?_append_of_ne_nil _ (List.cons_ne_nil _ _), List.getLast?_singleton, hkind]

/-- A template whose highest index begins with the digits of another argument. -/
def tenthTemplate : Text :=
  "\x7b10,date\x7d, \x7b2\x7d"

/-- The second argument of that template is mentioned at the beginning of the highest index and is a
string for that, and the kind of the last one is read behind the whole index. An index of as many
nines as a number may have digits is refused. -/
theorem tenthTemplate_signature :
    (∃ rest, signature tenthTemplate =
        .ok ⟨[.unknown, .string, .string] ++ List.replicate 7 .unknown ++ [.date]⟩ ∧
      IsBehindLastIndex tenthTemplate "10" rest ∧ kindBehind rest = .date) ∧
    signature ('\x7b' :: List.replicate Text.maxDigits '9') = .error .numberTooLong := by
  constructor
  · have hindices : ∀ digits, IsIndexOf digits tenthTemplate →
        digits = "10".toList ∨ digits = "2".toList := by
      intro digits hindex
      have hruns : indexRuns tenthTemplate = ["10".toList, "2".toList] := by decide +kernel
      rw [← mem_indexRuns_iff, hruns] at hindex
      simpa using hindex
    have hfew : ∀ digits, IsIndexOf digits tenthTemplate →
        ¬ IsLong digits ∧ Text.digitsValue digits < Signature.maxParameters := by
      intro digits hindex
      have hboth : digits.length ≤ Text.maxDigits ∧
          Text.digitsValue digits < Signature.maxParameters := by
        rcases hindices digits hindex with rfl | rfl <;> decide +kernel
      exact ⟨not_isLong hboth.1 hboth.2, hboth.2⟩
    have hdecimal : ∀ digits, IsIndexOf digits tenthTemplate → Text.IsDecimal digits := by
      intro digits hindex
      have hboth : digits.all Char.isDigit = true ∧ (digits.head? = some '0' → digits = ['0']) := by
        rcases hindices digits hindex with rfl | rfl <;> decide
      exact ⟨List.all_eq_true.mp hboth.1, hboth.2⟩
    have hhighest : IsHighestIndexOf "10" tenthTemplate := by
      refine ⟨mem_indexRuns_iff.mp (by decide +kernel), fun digits hindex => ?_⟩
      rcases hindices digits hindex with rfl | rfl <;> decide +kernel
    have hkinds : signature tenthTemplate =
        .ok ⟨[.unknown, .string, .string] ++ List.replicate 7 .unknown ++ [.date]⟩ := by
      decide +kernel
    obtain ⟨-, -, hok, hread⟩ := signature_of_indices tenthTemplate
    obtain ⟨s, hs, -⟩ := hok hfew
    obtain rfl := Except.ok.inj (hkinds.symm.trans hs)
    obtain ⟨rest, hbehind, hlast⟩ := (hread hdecimal _ hs).2 _ hhighest
    exact ⟨rest, hs, hbehind, (Option.some.inj hlast).symm⟩
  · exact (signature_of_indices _).1.mpr ⟨_, isIndexOf_nines, isLong_nines⟩

end Template
end MessageCatalog
