import MessageCatalog.Text.Basic

/-!
# Occurrences

A text occurs in another one if that has it as a run of its characters. The last occurrence is the
one with the least text behind it. When a character that the text sought does not have stands between
two texts, no occurrence reaches over it, and the last one is that of the second text if there is
any, and otherwise that of the first.

**Results.**
* `afterLast_eq_some_iff`, `afterLast_eq_none_iff`: what the search for the last occurrence finds.
* `prefix_append_cons_iff`, `infix_append_cons_iff`, `afterLast_append_cons`: no occurrence reaches
  over a character that it does not have.
* `occurs_at_end_iff`: texts in which something occurs at the end only.
-/

namespace MessageCatalog
namespace Text

variable {t p rest rest' : Text} {c : Char}

/-- The text stands behind an occurrence of `p`, and behind no occurrence stands less. -/
structure IsBehindLast (t p rest : Text) : Prop where
  occurs : ∃ before, t = before ++ (p ++ rest)
  last : ∀ before rest', t = before ++ (p ++ rest') → rest.length ≤ rest'.length

theorem IsBehindLast.isInfix (h : IsBehindLast t p rest) : p <:+: t := by
  obtain ⟨before, rfl⟩ := h.occurs
  exact ⟨before, rest, List.append_assoc _ _ _⟩

/-- There is only one text behind the last occurrence. -/
theorem IsBehindLast.unique (h : IsBehindLast t p rest) (h' : IsBehindLast t p rest') :
    rest = rest' := by
  obtain ⟨before, hbefore⟩ := h.occurs
  obtain ⟨before', hbefore'⟩ := h'.occurs
  have hlength : rest.length = rest'.length :=
    Nat.le_antisymm (h.last _ _ hbefore') (h'.last _ _ hbefore)
  rw [← List.append_assoc] at hbefore hbefore'
  exact (List.append_inj' (hbefore.symm.trans hbefore') hlength).2

/-- A character in front of a text with an occurrence does not change the last one. -/
theorem IsBehindLast.cons (h : IsBehindLast t p rest) : IsBehindLast (c :: t) p rest := by
  obtain ⟨before, hbefore⟩ := h.occurs
  refine ⟨⟨c :: before, by rw [hbefore]; rfl⟩, fun before' rest' h' => ?_⟩
  cases before' with
  | nil =>
      have hlength := congrArg List.length h'
      rw [hbefore] at hlength
      simp only [List.length_cons, List.length_append, List.nil_append] at hlength
      omega
  | cons d before' => exact h.last before' rest' (List.tail_eq_of_cons_eq h')

/-- The occurrence at the beginning is the last one if there is none behind it. -/
theorem isBehindLast_of_prefix (h : p <+: t) (htail : ¬ p <:+: t.tail) :
    IsBehindLast t p (t.drop p.length) := by
  obtain ⟨rest, rfl⟩ := h
  rw [List.drop_left]
  refine ⟨⟨[], rfl⟩, fun before rest' h' => ?_⟩
  cases before with
  | nil =>
      rw [List.nil_append] at h'
      exact Nat.le_of_eq (congrArg List.length (List.append_cancel_left h'))
  | cons d before =>
      rw [h'] at htail
      exact absurd ⟨before, rest', List.append_assoc _ _ _⟩ htail

theorem afterLast_eq_none_iff : t.afterLast p = none ↔ ¬ p <:+: t := by
  induction t with
  | nil => simp [afterLast]
  | cons c t ih =>
      rw [afterLast, List.infix_cons_iff]
      cases hlast : afterLast t p with
      | some rest =>
          have htail : p <:+: t := Decidable.byContradiction fun hnot => by
            rw [ih.mpr hnot] at hlast
            cases hlast
          simp [htail]
      | none => simp [ih.mp hlast, List.isPrefixOf_iff_prefix]

theorem isBehindLast_of_afterLast (h : t.afterLast p = some rest) : IsBehindLast t p rest := by
  induction t with
  | nil =>
      rw [afterLast] at h
      split at h
      next hp =>
        cases h
        rw [List.isEmpty_iff] at hp
        subst hp
        exact ⟨⟨[], rfl⟩, fun _ _ _ => Nat.zero_le _⟩
      next => cases h
  | cons c t ih =>
      rw [afterLast] at h
      split at h
      next hlast =>
        cases h
        exact (ih hlast).cons
      next hnone =>
        split at h
        next hprefix =>
          cases h
          exact isBehindLast_of_prefix (List.isPrefixOf_iff_prefix.mp hprefix)
            (afterLast_eq_none_iff.mp hnone)
        next => cases h

theorem afterLast_eq_some_iff : t.afterLast p = some rest ↔ IsBehindLast t p rest := by
  refine ⟨isBehindLast_of_afterLast, fun h => ?_⟩
  cases hlast : t.afterLast p with
  | none => exact absurd h.isInfix (afterLast_eq_none_iff.mp hlast)
  | some rest' => rw [(isBehindLast_of_afterLast hlast).unique h]

section Between

variable {a b : Text} (hc : c ∉ p)

include hc

theorem prefix_append_cons_iff : p <+: a ++ c :: b ↔ p <+: a := by
  refine ⟨fun h => ?_, fun h => h.trans (List.prefix_append _ _)⟩
  rcases List.prefix_or_prefix_of_prefix h (List.prefix_append a (c :: b)) with h' | ⟨p', rfl⟩
  · exact h'
  · -- what the text would have behind `a` begins with the character
    rw [List.prefix_append_right_inj] at h
    cases p' with
    | nil => simp
    | cons d p' =>
        obtain rfl : d = c := (List.cons_prefix_cons.mp h).1
        exact absurd (by simp) hc

/-- An occurrence stands in the one text or in the other. -/
theorem infix_append_cons_iff : p <:+: a ++ c :: b ↔ p <:+: a ∨ p <:+: b := by
  induction a with
  | nil =>
      rw [List.nil_append, List.infix_cons_iff, ← List.nil_append (c :: b),
        prefix_append_cons_iff hc, List.prefix_nil, List.infix_nil]
  | cons d a ih =>
      rw [List.cons_append, List.infix_cons_iff, ih, ← List.cons_append,
        prefix_append_cons_iff hc, List.infix_cons_iff, or_assoc]

/-- The last occurrence is that of the second text, if there is any, or else that of the first. -/
theorem afterLast_append_cons (hne : p ≠ []) (a b : Text) :
    (a ++ c :: b).afterLast p =
      (b.afterLast p).or ((a.afterLast p).map (· ++ c :: b)) := by
  have hfirst : ∀ a' : Text, p.isPrefixOf (a' ++ c :: b) = p.isPrefixOf a' := fun a' => by
    rw [Bool.eq_iff_iff, List.isPrefixOf_iff_prefix, List.isPrefixOf_iff_prefix,
      prefix_append_cons_iff hc]
  induction a with
  | nil =>
      have hnone : p.isPrefixOf [] = false := by
        cases p with
        | nil => exact absurd rfl hne
        | cons d p => rfl
      rw [List.nil_append, afterLast, afterLast, ← List.nil_append (c :: b), hfirst, hnone]
      cases b.afterLast p <;> simp [hne]
  | cons d a ih =>
      rw [List.cons_append, afterLast, ih, afterLast, ← List.cons_append, hfirst]
      cases b.afterLast p with
      | some rest => rfl
      | none =>
          cases afterLast a p with
          | some rest => rfl
          | none =>
              by_cases hprefix : p.isPrefixOf (d :: a) = true
              · obtain ⟨rest, hrest⟩ := List.isPrefixOf_iff_prefix.mp hprefix
                rw [if_pos hprefix, if_pos hprefix, ← hrest, List.append_assoc, List.drop_left,
                  List.drop_left]
                rfl
              · rw [if_neg hprefix, if_neg hprefix]
                rfl

end Between

/-- No occurrence reaches into a run of characters in front of a text that it does not have. -/
theorem infix_append_iff_of_disjoint {a b : Text} (hne : p ≠ []) (h : ∀ c ∈ a, c ∉ p) :
    p <:+: a ++ b ↔ p <:+: b := by
  induction a with
  | nil => rfl
  | cons c a ih =>
      have hc : c ∉ p := h c List.mem_cons_self
      rw [List.cons_append, ← List.nil_append (c :: (a ++ b)), infix_append_cons_iff hc,
        ih fun d hd => h d (List.mem_cons_of_mem _ hd), List.infix_nil, or_iff_right hne]

/-- A run of characters that an occurrence does not have separates two texts. -/
theorem infix_append_append_iff {a gap b : Text} (hp : p ≠ []) (hgap : gap ≠ [])
    (h : ∀ c ∈ gap, c ∉ p) : p <:+: a ++ (gap ++ b) ↔ p <:+: a ∨ p <:+: b := by
  cases gap with
  | nil => exact absurd rfl hgap
  | cons c gap =>
      rw [List.cons_append, infix_append_cons_iff (h c List.mem_cons_self),
        infix_append_iff_of_disjoint hp fun d hd => h d (List.mem_cons_of_mem _ hd)]

/-- Every occurrence stands at the end of the text exactly if there is none in front of its last
character. -/
theorem occurs_at_end_iff (hne : p ≠ []) :
    (∀ before after, t = before ++ (p ++ after) → after = []) ↔ ¬ p <:+: t.dropLast := by
  constructor
  · rintro h ⟨before, after, hinfix⟩
    have ht : t ≠ [] := by
      rintro rfl
      simp [hne] at hinfix
    have hsplit : t = before ++ (p ++ (after ++ [t.getLast ht])) := by
      rw [← List.append_assoc p, ← List.append_assoc before, ← List.append_assoc before, hinfix,
        List.dropLast_concat_getLast]
    have hafter := h before _ hsplit
    simp at hafter
  · rintro h before after rfl
    refine Decidable.byContradiction fun hafter => h ⟨before, after.dropLast, ?_⟩
    have happend : p ++ after ≠ [] := List.append_ne_nil_of_left_ne_nil hne _
    rw [List.dropLast_append_of_ne_nil happend, List.dropLast_append_of_ne_nil hafter,
      List.append_assoc]

end Text
end MessageCatalog
