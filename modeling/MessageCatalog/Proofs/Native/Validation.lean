import Mathlib.Data.List.Basic
import Mathlib.Data.List.Induction
import MessageCatalog.Native.Class
import MessageCatalog.Proofs.Bundle.Document
import MessageCatalog.Proofs.Bundle.FirstResource

/-!
# Validated bundles

Native code throws objects of declared classes only: every exception needs a class, of its own or of
the bundle, and the header in which that class is declared. Validation, the choice of the class and
the list of the headers read the same six options, each in its own way. This module says which
bundles are valid, and that the class of an exception in a valid bundle is declared in one of the
headers.

An exception with a class of its own takes the header of the bundle if it names none, but the class
of the bundle is never looked for in the header of an exception: a class of the bundle without a
header is refused even if no exception uses it.

**Results.**
* `Offends`, `resourceFault_eq_some`: why a resource is refused.
* `validate_eq_error`: the error of a bundle is that of its own options or of the first resource.
* `exists_declaredClass`: an exception of a valid bundle has a class and a header for it.
* `mem_exceptionIncludes_iff_named`, `pairwise_exceptionIncludes`: which headers are listed, in
  order of first mention.
* `validate_exact`: which bundles are valid, and what they have then.
-/

namespace MessageCatalog
namespace Native

variable {b : Bundle} {r : Resource} {rs : List Resource} {cause : GenerationCause}
  {source : Path} {e : GenerationError} {header : Text}

section Names

/-- The native class that a resource names for itself. -/
def ownClass? (r : Resource) : Option Text :=
  Text.present? (r.exception.bind (·.nativeClassName))

/-- The header that a resource names for itself. -/
def ownHeader? (r : Resource) : Option Text :=
  Text.present? (r.exception.bind (·.nativeClassLocation))

/-- The native class that a bundle names for its exceptions. -/
def defaultClass? (b : Bundle) : Option Text :=
  Text.present? b.options.nativeExceptionClassName

/-- The header that a bundle names for its exceptions. -/
def defaultHeader? (b : Bundle) : Option Text :=
  Text.present? b.options.nativeExceptionClassLocation

/-- The header of the native class of a resource: its own, if it names it together with a class of
its own, and that of the bundle otherwise. -/
def header? (b : Bundle) (r : Resource) : Option Text :=
  if ownClass? r = none then defaultHeader? b else (ownHeader? r).or (defaultHeader? b)

/-- The bundle names a class for its exceptions, but not the header of it. -/
def LacksDefaultHeader (b : Bundle) : Prop :=
  defaultClass? b ≠ none ∧ defaultHeader? b = none

instance (b : Bundle) : Decidable (LacksDefaultHeader b) :=
  inferInstanceAs (Decidable (_ ∧ _))

end Names

section Resources

/-- Why a resource has no native form. -/
inductive Offends (b : Bundle) (r : Resource) : GenerationCause → Prop where
  /-- It has no text. -/
  | noText (htext : r.text = none) : Offends b r .noText
  /-- It is an exception with a class of its own, and nothing names a header. -/
  | noHeader (htext : r.text ≠ none) (hexception : r.isException = true)
      (hclass : ownClass? r ≠ none) (hown : ownHeader? r = none)
      (hdefault : defaultHeader? b = none) : Offends b r .nativeClassWithoutHeader
  /-- It is an exception, and nothing names a class. -/
  | noClass (htext : r.text ≠ none) (hexception : r.isException = true)
      (hown : ownClass? r = none) (hdefault : defaultClass? b = none) :
      Offends b r .noNativeClass

/-- The resource has no native form in the bundle. -/
def IsOffending (b : Bundle) (r : Resource) : Prop :=
  ∃ cause, Offends b r cause

theorem isOffending_iff :
    IsOffending b r ↔ r.text = none ∨ r.isException = true ∧
      (ownClass? r ≠ none ∧ ownHeader? r = none ∧ defaultHeader? b = none ∨
        ownClass? r = none ∧ defaultClass? b = none) := by
  constructor
  · rintro ⟨_, htext | ⟨-, hexception, hclass, hown, hdefault⟩ | ⟨-, hexception, hown, hdefault⟩⟩
    · exact .inl htext
    · exact .inr ⟨hexception, .inl ⟨hclass, hown, hdefault⟩⟩
    · exact .inr ⟨hexception, .inr ⟨hown, hdefault⟩⟩
  · intro h
    by_cases htext : r.text = none
    · exact ⟨_, .noText htext⟩
    · obtain ⟨hexception, ⟨hclass, hown, hdefault⟩ | ⟨hown, hdefault⟩⟩ := h.resolve_left htext
      · exact ⟨_, .noHeader htext hexception hclass hown hdefault⟩
      · exact ⟨_, .noClass htext hexception hown hdefault⟩

/-- The checks of a resource, by what it and the bundle name. -/
theorem resourceFault_eq (b : Bundle) (r : Resource) :
    resourceFault b r =
      if r.text = none then some .noText
      else if r.isException = false then none
      else if ownClass? r ≠ none ∧ ownHeader? r = none ∧ defaultHeader? b = none then
        some .nativeClassWithoutHeader
      else if defaultClass? b = none ∧ ownClass? r = none then some .noNativeClass
      else none := by
  have hclass : given (r.exception.bind (·.nativeClassName)) = (ownClass? r).isSome := rfl
  have hheader : given (r.exception.bind (·.nativeClassLocation)) = (ownHeader? r).isSome := rfl
  have hdefault : given b.options.nativeExceptionClassName = (defaultClass? b).isSome := rfl
  have hlocation : given b.options.nativeExceptionClassLocation = (defaultHeader? b).isSome := rfl
  simp only [resourceFault, hclass, hheader, hdefault, hlocation, Option.isNone_iff_eq_none,
    Bool.not_eq_true', Bool.and_eq_true, Option.isSome_eq_false_iff, Option.isSome_iff_ne_none,
    and_assoc]

theorem Offends.resourceFault_eq (h : Offends b r cause) : resourceFault b r = some cause := by
  rw [Native.resourceFault_eq]
  rcases h with htext | ⟨htext, hexception, hclass, hown, hdefault⟩ |
    ⟨htext, hexception, hown, hdefault⟩
  · rw [if_pos htext]
  · rw [if_neg htext, if_neg (by simp [hexception]), if_pos ⟨hclass, hown, hdefault⟩]
  · rw [if_neg htext, if_neg (by simp [hexception]), if_neg fun h => h.1 hown,
      if_pos ⟨hdefault, hown⟩]

theorem resourceFault_eq_none : resourceFault b r = none ↔ ¬ IsOffending b r := by
  constructor
  · rintro hnone ⟨cause, hoffends⟩
    cases hnone.symm.trans hoffends.resourceFault_eq
  · intro h
    rw [isOffending_iff, not_or] at h
    rw [resourceFault_eq, if_neg h.1]
    by_cases hexception : r.isException = true
    · have hfine := not_or.mp fun hbad => h.2 ⟨hexception, hbad⟩
      rw [if_neg (by simp [hexception]), if_neg hfine.1,
        if_neg (mt And.symm hfine.2)]
    · rw [if_pos (Bool.eq_false_iff.mpr hexception)]

theorem resourceFault_eq_some : resourceFault b r = some cause ↔ Offends b r cause := by
  refine ⟨fun h => ?_, Offends.resourceFault_eq⟩
  by_cases hoffending : IsOffending b r
  · obtain ⟨cause', hoffends⟩ := hoffending
    cases hoffends.resourceFault_eq.symm.trans h
    exact hoffends
  · cases h.symm.trans (resourceFault_eq_none.mpr hoffending)

/-- The first fault is that of the first resource without a native form. -/
theorem firstFault_eq_some {name : Text} :
    firstFault b rs = some (cause, name) ↔
      ∃ r, IsFirst (IsOffending b) rs r ∧ Offends b r cause ∧ r.name = name := by
  induction rs with
  | nil => simp [firstFault, not_isFirst_nil]
  | cons first rest ih =>
      rw [firstFault]
      cases hfirst : resourceFault b first with
      | none =>
          have hnot := resourceFault_eq_none.mp hfirst
          simp only [ih, isFirst_cons_iff, hnot, false_and, false_or, not_false_eq_true, true_and]
      | some cause' =>
          have hoffends : IsOffending b first := ⟨cause', resourceFault_eq_some.mp hfirst⟩
          simp only [Option.some.injEq, Prod.mk.injEq, isFirst_cons_iff, hoffends, true_and,
            not_true_eq_false, false_and, or_false, exists_eq_left, ← resourceFault_eq_some, hfirst]

theorem firstFault_eq_none : firstFault b rs = none ↔ ∀ r ∈ rs, ¬ IsOffending b r := by
  induction rs with
  | nil => simp [firstFault]
  | cons first rest ih =>
      rw [firstFault, List.forall_mem_cons, ← resourceFault_eq_none]
      cases resourceFault b first with
      | none => simp [ih]
      | some cause => simp

/-- A bundle is refused for its own options, and otherwise for its first resource without a native
form. -/
theorem validate_eq_error :
    validate b source = .error e ↔
      LacksDefaultHeader b ∧ e = ⟨.nativeDefaultWithoutHeader, some source, none⟩ ∨
      ¬ LacksDefaultHeader b ∧ ∃ r cause, IsFirst (IsOffending b) b.resources r ∧
        Offends b r cause ∧ e = ⟨cause, some source, some r.name⟩ := by
  have hlacks : (given b.options.nativeExceptionClassName &&
      !given b.options.nativeExceptionClassLocation) = true ↔ LacksDefaultHeader b := by
    simp [given, LacksDefaultHeader, defaultClass?, defaultHeader?, Option.isSome_iff_ne_none]
  unfold validate
  by_cases hdefault : LacksDefaultHeader b
  · rw [if_pos (hlacks.mpr hdefault)]
    simp [hdefault, eq_comm]
  · rw [if_neg (mt hlacks.mp hdefault)]
    simp only [hdefault, false_and, false_or, not_false_eq_true, true_and]
    cases hfault : firstFault b b.resources with
    | none =>
        have hnone := firstFault_eq_none.mp hfault
        constructor
        · rintro ⟨⟩
        · rintro ⟨r, cause, hfirst, hoffends, -⟩
          exact absurd ⟨cause, hoffends⟩ (hnone r hfirst.mem)
    | some fault =>
        obtain ⟨cause, name⟩ := fault
        obtain ⟨r, hfirst, hoffends, rfl⟩ := firstFault_eq_some.mp hfault
        constructor
        · rintro ⟨⟩
          exact ⟨r, cause, hfirst, hoffends, rfl⟩
        · rintro ⟨r', cause', hfirst', hoffends', rfl⟩
          obtain rfl := hfirst.unique hfirst'
          rw [← resourceFault_eq_some] at hoffends hoffends'
          rw [hoffends] at hoffends'
          cases hoffends'
          rfl

theorem validate_eq_ok :
    validate b source = .ok ⟨⟩ ↔
      ¬ LacksDefaultHeader b ∧ ∀ r ∈ b.resources, ¬ IsOffending b r := by
  constructor
  · intro h
    have hnone : ∀ e, validate b source ≠ .error e := fun e herror => by
      rw [h] at herror
      cases herror
    have hdefault : ¬ LacksDefaultHeader b := fun hlacks =>
      hnone _ (validate_eq_error.mpr (.inl ⟨hlacks, rfl⟩))
    refine ⟨hdefault, fun r hr hoffending => ?_⟩
    obtain ⟨first, hfirst⟩ := exists_isFirst_iff.mpr ⟨r, hr, hoffending⟩
    obtain ⟨cause, hoffends⟩ := hfirst.has
    exact hnone _ (validate_eq_error.mpr (.inr ⟨hdefault, first, cause, hfirst, hoffends, rfl⟩))
  · rintro ⟨hdefault, hnone⟩
    cases hvalid : validate b source with
    | ok => rfl
    | error e =>
        rcases validate_eq_error.mp hvalid with ⟨hlacks, -⟩ | ⟨-, r, -, hfirst, -, -⟩
        · exact absurd hlacks hdefault
        · exact absurd hfirst.has (hnone r hfirst.mem)

theorem exists_validate_eq_error_iff :
    (∃ e, validate b source = .error e) ↔
      LacksDefaultHeader b ∨ ∃ r ∈ b.resources, IsOffending b r := by
  cases hvalid : validate b source with
  | ok =>
      obtain ⟨hdefault, hnone⟩ := validate_eq_ok.mp hvalid
      simp only [hdefault, false_or, reduceCtorEq, exists_false, false_iff]
      exact fun ⟨r, hr, hoffending⟩ => hnone r hr hoffending
  | error e =>
      simp only [Except.error.injEq, exists_eq', true_iff]
      rcases validate_eq_error.mp hvalid with ⟨hlacks, -⟩ | ⟨-, r, -, hfirst, -, -⟩
      · exact .inl hlacks
      · exact .inr ⟨r, hfirst.mem, hfirst.has⟩

end Resources

section Exceptions

/-- The class of an exception that is not refused: its own, or that of the bundle. -/
theorem exceptionClass_eq (h : ¬ IsOffending b r) (hexception : r.isException = true) :
    exceptionClass r b = (ownClass? r).or (defaultClass? b) ∧
      (ownClass? r ≠ none ∨ defaultClass? b ≠ none) := by
  rw [isOffending_iff, not_or, not_and, not_or, not_and', not_and'] at h
  have hclass : exceptionClass r b = (ownClass? r).or b.options.nativeExceptionClassName :=
    if_pos hexception
  rw [hclass]
  cases hown : ownClass? r with
  | some className => exact ⟨rfl, .inl (by simp)⟩
  | none =>
      have hdefault : defaultClass? b ≠ none := fun hnone => (h.2 hexception).2 hnone hown
      obtain ⟨className, hbundle⟩ := Option.ne_none_iff_exists'.mp hdefault
      refine ⟨?_, .inr hdefault⟩
      rw [hbundle, Option.none_or, Option.none_or]
      exact (Bundle.present?_eq_some_iff_eq.mp hbundle).1

/-- An exception class that a resource without a fault has is not empty. -/
theorem present_exceptionClass (h : ¬ IsOffending b r) :
    Text.present? (exceptionClass r b) = exceptionClass r b := by
  have hidem (t : Option Text) : Text.present? (Text.present? t) = Text.present? t := by
    rcases t with _ | _ | ⟨c, t⟩ <;> rfl
  by_cases hexception : r.isException = true
  · rw [(exceptionClass_eq h hexception).1]
    cases hown : ownClass? r with
    | none => exact hidem _
    | some className =>
        rw [Option.some_or, ← hown]
        exact hidem _
  · rw [exceptionClass, if_neg hexception]
    rfl

/-- An exception of a valid bundle has a class, and a header for it. -/
theorem exists_declaredClass (hdefault : ¬ LacksDefaultHeader b) (h : ¬ IsOffending b r)
    (hexception : r.isException = true) :
    ∃ className header, exceptionClass r b = some className ∧ className ≠ [] ∧
      header? b r = some header := by
  obtain ⟨hclass, hany⟩ := exceptionClass_eq h hexception
  have hheader : header? b r ≠ none := by
    unfold header?
    by_cases hown : ownClass? r = none
    · rw [if_pos hown]
      exact fun hnone => hdefault ⟨hany.resolve_left (not_not.mpr hown), hnone⟩
    · rw [if_neg hown, Ne, Option.or_eq_none_iff]
      rintro ⟨hnone, hnone'⟩
      exact h (isOffending_iff.mpr (.inr ⟨hexception, .inl ⟨hown, hnone, hnone'⟩⟩))
  obtain ⟨header, hheader⟩ := Option.ne_none_iff_exists'.mp hheader
  obtain ⟨className, hsome⟩ : ∃ className, exceptionClass r b = some className := by
    rw [← Option.ne_none_iff_exists', hclass, Ne, Option.or_eq_none_iff, not_and_or]
    exact hany
  have hpresent := present_exceptionClass h
  rw [hsome] at hpresent
  exact ⟨className, header, hsome, (Bundle.present?_eq_some_iff_eq.mp hpresent).2, hheader⟩

end Exceptions

section Includes

/-- The headers that a bundle names, as often as it names them: that of the bundle, then those of
the exceptions in order of declaration. -/
def mentions (b : Bundle) : List Text :=
  (b.options.nativeExceptionClassLocation :: b.resources.map fun r =>
    if r.isException then r.exception.bind (·.nativeClassLocation) else none).filterMap
      Text.present?

theorem exceptionIncludes_eq (b : Bundle) : exceptionIncludes b = (mentions b).eraseDups := by
  have hresource (r : Resource) :
      (if r.isException then Text.present? (r.exception.bind (·.nativeClassLocation)) else none) =
        Text.present?
          (if r.isException then r.exception.bind (·.nativeClassLocation) else none) := by
    split
    · rfl
    · rfl
  unfold exceptionIncludes mentions
  simp only [hresource]
  rw [List.filterMap_cons, List.filterMap_map]
  cases Text.present? b.options.nativeExceptionClassLocation with
  | none => rfl
  | some header => rfl

theorem mem_exceptionIncludes_iff :
    header ∈ exceptionIncludes b ↔
      defaultHeader? b = some header ∨
        ∃ r ∈ b.resources, r.isException = true ∧ ownHeader? r = some header := by
  rw [exceptionIncludes_eq, List.mem_eraseDups, mentions, List.mem_filterMap]
  simp only [List.mem_cons, List.mem_map, exists_eq_or_imp, ↓existsAndEq, and_true]
  refine or_congr Iff.rfl (exists_congr fun r => and_congr_right fun _ => ?_)
  by_cases hexception : r.isException = true
  · simp only [hexception, if_true, true_and]
    rfl
  · simp [hexception, Text.present?]

theorem mem_exceptionIncludes_iff_named :
    header ∈ exceptionIncludes b ↔ header ≠ [] ∧
      (b.options.nativeExceptionClassLocation = some header ∨
        ∃ r ∈ b.resources, r.isException = true ∧
          r.exception.bind (·.nativeClassLocation) = some header) := by
  rw [mem_exceptionIncludes_iff]
  simp only [defaultHeader?, ownHeader?, Bundle.present?_eq_some_iff_eq]
  constructor
  · rintro (⟨hbundle, hne⟩ | ⟨r, hr, hexception, hown, hne⟩)
    · exact ⟨hne, .inl hbundle⟩
    · exact ⟨hne, .inr ⟨r, hr, hexception, hown⟩⟩
  · rintro ⟨hne, hbundle | ⟨r, hr, hexception, hown⟩⟩
    · exact .inl ⟨hbundle, hne⟩
    · exact .inr ⟨r, hr, hexception, hown, hne⟩

theorem header_mem_exceptionIncludes (hr : r ∈ b.resources) (hexception : r.isException = true)
    (h : header? b r = some header) : header ∈ exceptionIncludes b := by
  rw [mem_exceptionIncludes_iff]
  unfold header? at h
  split at h
  · exact .inl h
  · rcases Option.or_eq_some_iff.mp h with hown | ⟨-, hdefault⟩
    · exact .inr ⟨r, hr, hexception, hown⟩
    · exact .inl hdefault

/-- Without the repetitions, the members of a list stand in order of their first occurrence. -/
theorem pairwise_eraseDups {α : Type} [BEq α] [LawfulBEq α] (as : List α) :
    as.eraseDups.Pairwise fun a b => as.idxOf a < as.idxOf b := by
  induction as using List.reverseRecOn with
  | nil => exact .nil
  | append_singleton as x ih =>
      -- what stands behind a list changes no first occurrence in it
      have hmono : as.eraseDups.Pairwise fun a b => (as ++ [x]).idxOf a < (as ++ [x]).idxOf b := by
        refine ih.imp_of_mem fun {a b} ha hb hlt => ?_
        rw [List.idxOf_append_of_mem (List.mem_eraseDups.mp ha),
          List.idxOf_append_of_mem (List.mem_eraseDups.mp hb)]
        exact hlt
      rw [List.eraseDups_append]
      by_cases hx : x ∈ as
      · have hnone : [x].removeAll as = [] := by simp [List.removeAll, hx]
        rw [hnone]
        simpa using hmono
      · have hone : [x].removeAll as = [x] := by simp [List.removeAll, hx]
        rw [hone]
        refine List.pairwise_append.mpr ⟨hmono, List.pairwise_singleton _ _, fun a ha y hy => ?_⟩
        have hmem := List.mem_eraseDups.mp ha
        obtain rfl : y = x := by simpa using hy
        rw [List.idxOf_append_of_mem hmem, List.idxOf_append_of_notMem hx]
        exact Nat.lt_of_lt_of_le (List.idxOf_lt_length_of_mem hmem) (Nat.le_add_right _ _)

theorem pairwise_exceptionIncludes (b : Bundle) :
    (exceptionIncludes b).Pairwise fun header header' =>
      (mentions b).idxOf header < (mentions b).idxOf header' := by
  rw [exceptionIncludes_eq]
  exact pairwise_eraseDups (mentions b)

theorem nodup_exceptionIncludes (b : Bundle) : (exceptionIncludes b).Nodup := by
  refine (pairwise_exceptionIncludes b).imp fun {header header'} hlt heq => ?_
  exact Nat.lt_irrefl _ (heq ▸ hlt)

theorem head?_exceptionIncludes (h : defaultHeader? b = some header) :
    (exceptionIncludes b).head? = some header := by
  have hfirst : Text.present? b.options.nativeExceptionClassLocation = some header := h
  have hmentions : mentions b = header :: (mentions b).tail := by
    unfold mentions
    rw [List.filterMap_cons_some hfirst, List.tail_cons]
  rw [exceptionIncludes_eq, hmentions, List.eraseDups_cons, List.head?_cons]

end Includes

section Bundles

/-- A bundle is refused exactly if its class has no header or some resource is in the way, for its
own options in the first place and otherwise for the first such resource. In a bundle that is not
refused, every exception has a class and the header of the class is included; a message has no
class. The included headers are the non-empty ones that the bundle or its exceptions name, each once
and in order of first mention, that of the bundle in front. -/
theorem validate_exact (b : Bundle) (source : Path) :
    ((∃ e, validate b source = .error e) ↔
      LacksDefaultHeader b ∨ ∃ r ∈ b.resources, r.text = none ∨ r.isException = true ∧
        (ownClass? r ≠ none ∧ ownHeader? r = none ∧ defaultHeader? b = none ∨
          ownClass? r = none ∧ defaultClass? b = none)) ∧
    (∀ e, validate b source = .error e ↔
      LacksDefaultHeader b ∧ e = ⟨.nativeDefaultWithoutHeader, some source, none⟩ ∨
      ¬ LacksDefaultHeader b ∧ ∃ r cause, IsFirst (IsOffending b) b.resources r ∧
        Offends b r cause ∧ e = ⟨cause, some source, some r.name⟩) ∧
    (validate b source = .ok ⟨⟩ → ∀ r ∈ b.resources,
      (r.isException = true → ∃ className header, exceptionClass r b = some className ∧
        className ≠ [] ∧ header? b r = some header ∧ header ∈ exceptionIncludes b) ∧
      (r.isException = false → exceptionClass r b = none)) ∧
    (∀ header, header ∈ exceptionIncludes b ↔ header ≠ [] ∧
      (b.options.nativeExceptionClassLocation = some header ∨
        ∃ r ∈ b.resources, r.isException = true ∧
          r.exception.bind (·.nativeClassLocation) = some header)) ∧
    (exceptionIncludes b).Nodup ∧
    ((exceptionIncludes b).Pairwise fun header header' =>
      (mentions b).idxOf header < (mentions b).idxOf header') ∧
    ∀ header, defaultHeader? b = some header → (exceptionIncludes b).head? = some header := by
  refine ⟨?_, fun e => validate_eq_error, fun hvalid r hr => ⟨fun hexception => ?_, fun h => ?_⟩,
    fun header => mem_exceptionIncludes_iff_named, nodup_exceptionIncludes b,
    pairwise_exceptionIncludes b, fun header => head?_exceptionIncludes⟩
  · simp only [← isOffending_iff]
    exact exists_validate_eq_error_iff
  · obtain ⟨hdefault, hnone⟩ := validate_eq_ok.mp hvalid
    obtain ⟨className, header, hclass, hne, hheader⟩ :=
      exists_declaredClass hdefault (hnone r hr) hexception
    exact ⟨className, header, hclass, hne, hheader,
      header_mem_exceptionIncludes hr hexception hheader⟩
  · rw [exceptionClass, if_neg (by simp [h])]

/-- A bundle with a default class, an exception with class and header of its own, one with a class
only, one with a header only, and a message. -/
def declaringBundle : Bundle where
  locale := none
  resources := [
    ⟨"a", .exception, some "x", [], none, some ⟨none, some "A", some "a.h", none⟩⟩,
    ⟨"b", .exception, some "x", [], none, some ⟨none, some "B", none, none⟩⟩,
    ⟨"c", .exception, some "x", [], none, some ⟨none, some [], some "c.h", none⟩⟩,
    ⟨"d", .message, some "x", [], none, none⟩]
  options := ⟨none, none, none, some "E", some "e.h", none, []⟩

theorem declaringBundle_valid :
    validate declaringBundle (.ofText "N.xml") = .ok ⟨⟩ ∧
      (∀ r ∈ declaringBundle.resources, r.isException = true →
        ∃ className header, exceptionClass r declaringBundle = some className ∧
          header? declaringBundle r = some header ∧
          header ∈ exceptionIncludes declaringBundle) ∧
      exceptionIncludes declaringBundle = ["e.h".toList, "a.h".toList, "c.h".toList] := by
  have hvalid : validate declaringBundle (.ofText "N.xml") = .ok ⟨⟩ := by rfl
  refine ⟨hvalid, fun r hr hexception => ?_, by decide⟩
  obtain ⟨-, -, hclasses, -⟩ := validate_exact declaringBundle (.ofText "N.xml")
  obtain ⟨className, header, hclass, -, hheader, hmem⟩ := (hclasses hvalid r hr).1 hexception
  exact ⟨className, header, hclass, hheader, hmem⟩

end Bundles

end Native
end MessageCatalog
