import Mathlib.Data.List.Find
import Mathlib.Data.List.Infix
import Mathlib.Order.MinMax
import MessageCatalog.Proofs.Template.Arity
import MessageCatalog.Proofs.Template.Keyword

/-!
# Templates put together

A template may be put together from two with a character between them. Unless the character belongs
to an index, to the blanks and the comma behind it or to a format word, what the first template says
ends there: the whole has the indices of both, and the kind of an argument is read in the second
template if that mentions it, and otherwise in the first.

**Results.**
* `IsSeam`: the characters that may stand between two templates.
* `kindBehind_append_cons`, `kindAt_append_cons`: no reading of a kind reaches over a seam.
* `signature_append_cons`: the signature of a template that is put together.
-/

namespace MessageCatalog
namespace Template

variable {a b rest : Text} {c : Char}

/-- The character is no part of a placeholder up to the end of its format word. -/
structure IsSeam (c : Char) : Prop where
  brace : c ≠ '\x7b'
  space : c ≠ ' '
  comma : c ≠ ','
  digit : Text.isDigit c = false
  letter : c.isLower = false

/-- The format words are of small ASCII letters. -/
theorem not_mem_keyword (hc : c.isLower = false) {entry : Text × ParameterKind}
    (hentry : entry ∈ keywords) : c ∉ entry.1 := by
  have hlower : (keywords.all fun entry => entry.1.all Char.isLower) = true := by decide
  intro hmem
  have hword := List.all_eq_true.mp hlower entry hentry
  rw [List.all_eq_true.mp hword c hmem] at hc
  cases hc

theorem dropSpaces_append_cons (hc : c ≠ ' ') (a b : Text) :
    dropSpaces (a ++ c :: b) = dropSpaces a ++ c :: b := by
  unfold dropSpaces
  rw [List.dropWhile_append]
  split
  next hnil => simp [List.isEmpty_iff.mp hnil, hc]
  next => rfl

/-- What stands behind an index is read up to the seam at most. -/
theorem kindBehind_append_cons (hc : IsSeam c) (rest b : Text) :
    kindBehind (rest ++ c :: b) = kindBehind rest := by
  unfold kindBehind
  rw [dropSpaces_append_cons hc.space]
  cases dropSpaces rest with
  | nil => simp [hc.comma]
  | cons d rest =>
      by_cases hd : d = ','
      · subst hd
        have hsame : ∀ entry ∈ keywords,
            (dropSpaces (rest ++ c :: b)).startsWith entry.1 =
              (dropSpaces rest).startsWith entry.1 := by
          intro entry hentry
          rw [dropSpaces_append_cons hc.space, Bool.eq_iff_iff]
          unfold Text.startsWith
          rw [List.isPrefixOf_iff_prefix, List.isPrefixOf_iff_prefix]
          exact Text.prefix_append_cons_iff (not_mem_keyword hc.letter hentry)
        simp only [List.cons_append]
        rw [List.find?_congr hsame]
      · simp [hd]

theorem not_mem_token (hc : IsSeam c) (index : Nat) : c ∉ token index := by
  intro hmem
  rcases List.mem_cons.mp hmem with hbrace | hdigit
  · exact hc.brace hbrace
  · have hisDigit := Text.isDigit_of_ascii (Text.isDigit_of_mem_ofNat hdigit)
    rw [hc.digit] at hisDigit
    cases hisDigit

/-- The last mention of an argument is in the second template, if that mentions it at all. -/
theorem kindAt_append_cons (hc : IsSeam c) (a b : Text) (index : Nat) :
    kindAt (a ++ c :: b) index =
      if token index <:+: b then kindAt b index else kindAt a index := by
  unfold kindAt
  rw [Text.afterLast_append_cons (not_mem_token hc index) (List.cons_ne_nil _ _)]
  cases hb : b.afterLast (token index) with
  | some rest =>
      rw [if_pos (Text.afterLast_eq_some_iff.mp hb).isInfix]
      rfl
  | none =>
      rw [if_neg (Text.afterLast_eq_none_iff.mp hb)]
      cases a.afterLast (token index) with
      | some rest => exact kindBehind_append_cons hc rest b
      | none => rfl

theorem hasLongIndex_append_cons (hc : IsSeam c) (a b : Text) :
    HasLongIndex (a ++ c :: b) ↔ HasLongIndex a ∨ HasLongIndex b := by
  simp only [HasLongIndex, isIndexOf_append_cons hc.brace hc.digit, or_and_right, exists_or]

/-- A signature of the whole lists the kinds that are read in either template. -/
theorem kinds_append_cons (hc : IsSeam c) (a b : Text) (s : Signature) :
    s = ⟨(List.range (arity (a ++ c :: b))).map fun (index : Nat) => kindAt (a ++ c :: b) index⟩ ↔
      s.kinds.length = max (arity a) (arity b) ∧
      ∀ i (hi : i < s.kinds.length),
        s.kinds[i] = if token i <:+: b then kindAt b i else kindAt a i := by
  simp only [arity_append_cons hc.brace hc.digit, kindAt_append_cons hc]
  constructor
  · rintro rfl
    exact ⟨by simp, fun i hi => by simp⟩
  · rintro ⟨hlength, hkinds⟩
    cases s with
    | mk kinds =>
        refine congrArg Signature.mk (List.ext_getElem (by simpa using hlength) fun i hi _ => ?_)
        rw [hkinds i hi, List.getElem_map, List.getElem_range]

/-- A template that is put together from two at a seam has too long an index if one of the two has
one, and too many arguments if it has none and one of the two has too many. Otherwise it has as many
arguments as the one with more of them, and the kind of an argument is that of the second template
if that mentions the argument, and else that of the first. -/
theorem signature_append_cons (hc : IsSeam c) (a b : Text) :
    (signature (a ++ c :: b) = .error .numberTooLong ↔ HasLongIndex a ∨ HasLongIndex b) ∧
    ((∃ highest, signature (a ++ c :: b) = .error (.tooManyParameters highest)) ↔
      ¬ (HasLongIndex a ∨ HasLongIndex b) ∧
        ((∃ highest, signature a = .error (.tooManyParameters highest)) ∨
          ∃ highest, signature b = .error (.tooManyParameters highest))) ∧
    ∀ s, signature (a ++ c :: b) = .ok s ↔
      ∃ sa sb, signature a = .ok sa ∧ signature b = .ok sb ∧
        s.kinds.length = max sa.kinds.length sb.kinds.length ∧
        ∀ i (hi : i < s.kinds.length),
          s.kinds[i] = if token i <:+: b then kindAt b i else kindAt a i := by
  have harity : arity (a ++ c :: b) = max (arity a) (arity b) :=
    arity_append_cons hc.brace hc.digit a b
  refine ⟨?_, ?_, fun s => ?_⟩
  · rw [signature_eq_numberTooLong, hasLongIndex_append_cons hc]
  · rw [exists_tooManyParameters_iff, exists_tooManyParameters_iff, exists_tooManyParameters_iff,
      hasLongIndex_append_cons hc, harity, lt_max_iff]
    tauto
  · rw [signature_eq_ok_iff, hasLongIndex_append_cons hc, kinds_append_cons hc, harity, Nat.max_le,
      not_or]
    constructor
    · rintro ⟨⟨hlonga, hlongb⟩, ⟨hfewa, hfewb⟩, hlength, hkinds⟩
      refine ⟨_, _, signature_eq_ok_iff.mpr ⟨hlonga, hfewa, rfl⟩,
        signature_eq_ok_iff.mpr ⟨hlongb, hfewb, rfl⟩, ?_, hkinds⟩
      rw [hlength, List.length_map, List.length_map, List.length_range, List.length_range]
    · rintro ⟨sa, sb, hsa, hsb, hlength, hkinds⟩
      obtain ⟨hlonga, hfewa, rfl⟩ := signature_eq_ok_iff.mp hsa
      obtain ⟨hlongb, hfewb, rfl⟩ := signature_eq_ok_iff.mp hsb
      rw [List.length_map, List.length_map, List.length_range, List.length_range] at hlength
      exact ⟨⟨hlonga, hlongb⟩, ⟨hfewa, hfewb⟩, hlength, hkinds⟩

/-- The brace behind a placeholder is a seam. The number of the second argument is forgotten when a
later placeholder mentions that argument without a format. -/
theorem closingBrace_append :
    IsSeam '\x7d' ∧
      signature ("\x7b1,number\x7d of \x7b0,date".toList ++ '\x7d' :: " and \x7b1\x7d".toList) =
        .ok ⟨[.date, .string]⟩ := by
  have hseam : IsSeam '\x7d' := by
    constructor <;> decide
  obtain ⟨-, -, hok⟩ :=
    signature_append_cons hseam "\x7b1,number\x7d of \x7b0,date" " and \x7b1\x7d"
  refine ⟨hseam, (hok _).mpr ⟨⟨[.date, .number]⟩, ⟨[.unknown, .string]⟩, rfl, rfl, rfl, ?_⟩⟩
  decide +kernel

end Template
end MessageCatalog
