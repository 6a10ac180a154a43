import MessageCatalog.Bundle.Basic

/-!
# The first member with a property

A bundle is refused for the first of its resources that is in the way, in order of declaration,
although later ones may be too. There is such a resource exactly if any is in the way, and it is the
only one.

**Results.**
* `isFirst_cons_iff`: a list is gone through from its front.
* `exists_isFirst_iff`, `IsFirst.unique`: one member is the first one exactly if some member has the
  property.
-/

namespace MessageCatalog

variable {α : Type} {p q : α → Prop} {a first : α} {as : List α}

/-- The member has the property, and no member in front of it does. -/
structure IsFirst (p : α → Prop) (as : List α) (a : α) : Prop where
  has : p a
  first : ∃ before after, as = before ++ a :: after ∧ ∀ x ∈ before, ¬ p x

theorem not_isFirst_nil : ¬ IsFirst p [] a := by
  rintro ⟨-, before, after, h, -⟩
  simp at h

theorem isFirst_cons_iff :
    IsFirst p (first :: as) a ↔ p first ∧ a = first ∨ ¬ p first ∧ IsFirst p as a := by
  constructor
  · rintro ⟨ha, before, after, h, hbefore⟩
    cases before with
    | nil =>
        cases h
        exact .inl ⟨ha, rfl⟩
    | cons x before =>
        cases h
        refine .inr ⟨hbefore first List.mem_cons_self, ha, before, after, rfl, fun x hx => ?_⟩
        exact hbefore x (List.mem_cons_of_mem first hx)
  · rintro (⟨ha, rfl⟩ | ⟨hfirst, ha, before, after, rfl, hbefore⟩)
    · exact ⟨ha, [], as, rfl, fun _ h => absurd h List.not_mem_nil⟩
    · exact ⟨ha, first :: before, after, rfl, List.forall_mem_cons.mpr ⟨hfirst, hbefore⟩⟩

theorem IsFirst.mem (h : IsFirst p as a) : a ∈ as := by
  obtain ⟨-, before, after, rfl, -⟩ := h
  exact List.mem_append_right before List.mem_cons_self

theorem exists_isFirst_iff : (∃ a, IsFirst p as a) ↔ ∃ a ∈ as, p a := by
  constructor
  · rintro ⟨a, ha⟩
    exact ⟨a, ha.mem, ha.has⟩
  · rintro ⟨a, hmem, ha⟩
    induction as with
    | nil => cases hmem
    | cons first as ih =>
        by_cases hfirst : p first
        · exact ⟨first, isFirst_cons_iff.mpr (.inl ⟨hfirst, rfl⟩)⟩
        · have hne : a ≠ first := fun h => hfirst (h ▸ ha)
          obtain ⟨b, hb⟩ := ih ((List.mem_cons.mp hmem).resolve_left hne)
          exact ⟨b, isFirst_cons_iff.mpr (.inr ⟨hfirst, hb⟩)⟩

theorem IsFirst.unique {b : α} (ha : IsFirst p as a) (hb : IsFirst p as b) : a = b := by
  induction as with
  | nil => exact absurd ha not_isFirst_nil
  | cons first as ih =>
      rcases isFirst_cons_iff.mp ha with ⟨hfirst, rfl⟩ | ⟨hfirst, ha⟩
      · rcases isFirst_cons_iff.mp hb with ⟨-, rfl⟩ | ⟨hnot, -⟩
        · rfl
        · exact absurd hfirst hnot
      · rcases isFirst_cons_iff.mp hb with ⟨hb, -⟩ | ⟨-, hb⟩
        · exact absurd hb hfirst
        · exact ih ha hb

theorem isFirst_congr (h : ∀ a ∈ as, p a ↔ q a) : IsFirst p as a ↔ IsFirst q as a := by
  constructor
  · rintro ⟨ha, before, after, rfl, hbefore⟩
    refine ⟨(h a (by simp)).mp ha, before, after, rfl, fun x hx => ?_⟩
    exact mt (h x (List.mem_append_left _ hx)).mpr (hbefore x hx)
  · rintro ⟨ha, before, after, rfl, hbefore⟩
    refine ⟨(h a (by simp)).mpr ha, before, after, rfl, fun x hx => ?_⟩
    exact mt (h x (List.mem_append_left _ hx)).mp (hbefore x hx)

end MessageCatalog
