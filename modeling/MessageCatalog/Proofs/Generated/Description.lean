import Mathlib.Data.List.Forall2
import MessageCatalog.Generated.Description

/-!
# Descriptions of resources

A description is that of its resource, so that everything which is generated for a resource can be
read off the description. The descriptions of several resources stand in the order of the resources.
-/

namespace MessageCatalog

theorem resource_of_describe {r : Resource} {source : Path} {described : Description}
    (h : r.describe source = .ok described) : described.resource = r := by
  unfold Resource.describe at h
  cases htext : r.requireText source with
  | error e => simp [htext] at h
  | ok text =>
      cases hsignature : Template.signature text with
      | ok signature =>
          simp only [htext, hsignature, Except.ok.injEq] at h
          rw [← h]
      | error e => cases e <;> simp [htext, hsignature] at h

theorem text_of_describe {r : Resource} {source : Path} {d : Description}
    (h : r.describe source = .ok d) :
    r.text = some d.text ∧ Template.signature d.text = .ok d.signature := by
  unfold Resource.describe Resource.requireText at h
  cases htext : r.text with
  | none =>
      rw [htext] at h
      cases h
  | some text =>
      rw [htext] at h
      cases hsignature : Template.signature text with
      | error e => cases e <;> simp [hsignature] at h
      | ok signature =>
          simp only [hsignature, Except.ok.injEq] at h
          rw [← h]
          exact ⟨rfl, hsignature⟩

theorem mapM_eq_ok {ε α β : Type} {f : α → Except ε β} {as : List α} {bs : List β}
    (h : as.mapM f = .ok bs) : List.Forall₂ (fun a b => f a = .ok b) as bs := by
  induction as generalizing bs with
  | nil =>
      cases h
      exact .nil
  | cons a as ih =>
      rw [List.mapM_cons] at h
      cases hfirst : f a with
      | error e =>
          rw [hfirst] at h
          cases h
      | ok b =>
          rw [hfirst] at h
          cases hrest : as.mapM f with
          | error e =>
              rw [hrest] at h
              cases h
          | ok rest =>
              rw [hrest] at h
              cases h
              exact .cons hfirst (ih hrest)

theorem exists_of_mem_right {α β : Type} {R : α → β → Prop} {as : List α} {bs : List β}
    (h : List.Forall₂ R as bs) {b : β} (hb : b ∈ bs) : ∃ a ∈ as, R a b := by
  induction h with
  | nil => cases hb
  | cons hfirst _ ih =>
      rcases List.mem_cons.mp hb with rfl | hb
      · exact ⟨_, List.mem_cons_self, hfirst⟩
      · obtain ⟨a, ha, hr⟩ := ih hb
        exact ⟨a, List.mem_cons_of_mem _ ha, hr⟩

theorem exists_of_mem_left {α β : Type} {R : α → β → Prop} {as : List α} {bs : List β}
    (h : List.Forall₂ R as bs) {a : α} (ha : a ∈ as) : ∃ b ∈ bs, R a b :=
  exists_of_mem_right h.flip ha

theorem map_resource_of_describe {source : Path} {resources : List Resource}
    {ds : List Description}
    (h : List.Forall₂ (fun r d => r.describe source = .ok d) resources ds) :
    ds.map Description.resource = resources := by
  induction h with
  | nil => rfl
  | cons hdescribe _ ih => rw [List.map_cons, resource_of_describe hdescribe, ih]

end MessageCatalog
