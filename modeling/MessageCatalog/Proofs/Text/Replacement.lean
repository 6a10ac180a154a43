import MessageCatalog.Text.Basic
import Mathlib.Data.List.Infix

/-!
# Replacements

A replacement goes through a text from left to right. Where the text sought stands in front, it puts
the new text in its place and goes on behind it; otherwise it keeps a character and goes on with the
next one. A text that does not have the text sought stays as it is, and with a shorter new text no
other one does.

**Results.**
* `replace_append_left`, `replace_cons`: one step of a replacement.
* `replace_singleton`: replacing a character is done character by character.
* `replace_eq_self_iff`: which texts a replacement by a shorter text leaves as they are.
-/

namespace MessageCatalog
namespace Text

variable {old new t : Text} {c : Char}

/-- The characters to be skipped do not matter. -/
theorem replaceFrom_eq (old new : Text) (n : Nat) (t : Text) :
    replaceFrom old new n t = replace (t.drop n) old new := by
  induction t generalizing n with
  | nil =>
      rw [List.drop_nil]
      cases n <;> rfl
  | cons c t ih =>
      cases n with
      | zero => rfl
      | succ n => rw [replaceFrom, ih, List.drop_succ_cons]

/-- The text sought is replaced where it stands in front. -/
theorem replace_append_left (hne : old ≠ []) (new t : Text) :
    replace (old ++ t) old new = new ++ replace t old new := by
  obtain ⟨c, old', rfl⟩ := List.exists_cons_of_ne_nil hne
  have hfront : (c :: old').isPrefixOf (c :: (old' ++ t)) = true :=
    List.isPrefixOf_iff_prefix.mpr (List.prefix_append (c :: old') t)
  rw [List.cons_append, replace, replaceFrom, if_pos hfront, replaceFrom_eq, List.length_cons,
    Nat.add_sub_cancel, List.drop_left]

/-- A character is kept if the text sought does not stand in front of it. -/
theorem replace_cons (hfront : ¬ old <+: c :: t) :
    replace (c :: t) old new = c :: replace t old new := by
  rw [replace, replaceFrom, if_neg (mt List.isPrefixOf_iff_prefix.mp hfront)]
  rfl

theorem replace_pair_cons {a b : Char} (hpair : ∀ rest, c = a → t = b :: rest → False) :
    replace (c :: t) [a, b] new = c :: replace t [a, b] new := by
  refine replace_cons fun hfront => ?_
  obtain ⟨rest, hrest⟩ := hfront
  injection hrest with hc ht
  exact hpair rest hc.symm ht.symm

/-- A text without the first character of the text sought is kept. -/
theorem replace_append_of_not_mem {kept : Text} (h : c ∉ kept) :
    replace (kept ++ t) (c :: old) new = kept ++ replace t (c :: old) new := by
  induction kept with
  | nil => rfl
  | cons d kept ih =>
      rw [List.mem_cons, not_or] at h
      rw [List.cons_append, List.cons_append, ← ih h.2]
      exact replace_cons fun hfront => h.1 (List.cons_prefix_cons.mp hfront).1

/-- Replacing a character is done character by character. -/
theorem replace_singleton (a : Char) (new t : Text) :
    replace t [a] new = t.flatMap fun c => if c = a then new else [c] := by
  induction t with
  | nil => rfl
  | cons c t ih =>
      rw [List.flatMap_cons, ← ih]
      by_cases hc : c = a
      · subst hc
        rw [if_pos rfl]
        exact replace_append_left (List.cons_ne_nil c []) new t
      · rw [if_neg hc]
        exact replace_cons fun h => hc (List.cons_prefix_cons.mp h).1.symm

/-- A text without the text sought stays as it is. -/
theorem replace_of_not_infix (h : ¬ old <:+: t) : t.replace old new = t := by
  induction t with
  | nil => rfl
  | cons c t ih =>
      rw [List.infix_cons_iff, not_or] at h
      rw [replace_cons h.1, ih h.2]

/-- A replacement by a shorter text makes a text shorter, if it does anything. -/
theorem length_replace (hne : old ≠ []) (hlength : new.length < old.length) (t : Text) :
    (t.replace old new).length ≤ t.length ∧
      (old <:+: t → (t.replace old new).length < t.length) := by
  induction hn : t.length using Nat.strong_induction_on generalizing t with
  | _ n ih =>
    subst hn
    by_cases hfront : old <+: t
    · obtain ⟨rest, rfl⟩ := hfront
      have hpos := List.length_pos_of_ne_nil hne
      have hrest := (ih rest.length (by simp; omega) rest rfl).1
      rw [replace_append_left hne, List.length_append, List.length_append]
      omega
    · cases t with
      | nil =>
          refine ⟨Nat.le_refl 0, fun h => ?_⟩
          exact absurd (List.infix_nil.mp h) hne
      | cons c t =>
          have hrest := ih t.length (Nat.lt_succ_self _) t rfl
          rw [replace_cons hfront, List.length_cons, List.length_cons, List.infix_cons_iff,
            or_iff_right hfront]
          exact ⟨Nat.succ_le_succ hrest.1, fun h => Nat.succ_lt_succ (hrest.2 h)⟩

/-- A replacement by a shorter text leaves exactly the texts as they are that do not have the text
sought. -/
theorem replace_eq_self_iff (hne : old ≠ []) (hlength : new.length < old.length) :
    t.replace old new = t ↔ ¬ old <:+: t := by
  refine ⟨fun h hinfix => ?_, replace_of_not_infix⟩
  have hshorter := (length_replace hne hlength t).2 hinfix
  rw [h] at hshorter
  exact Nat.lt_irrefl _ hshorter

end Text
end MessageCatalog
