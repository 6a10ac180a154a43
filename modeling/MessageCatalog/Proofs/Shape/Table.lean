import MessageCatalog.Settings.Basic

/-!
# Tables of written shapes

Settings list the constructors of exception classes by tokens. A list without tokens is a shape like
any other: the class is then known to have no constructor, which is not the same as a class that is
not known. None of the classes that are always known is like that.

**Results.**
* `ConstructorShape.ofTokens_eq_empty_iff`: no constructor is read off a list without tokens only.
* `Settings.LeavesOut`: the shapes give a class no constructor.
* `Settings.lookup_eq_empty_iff`: the table says so of exactly those classes.
-/

namespace MessageCatalog

namespace ConstructorShape

variable {s s' : ConstructorShape}

theorem isEmpty_iff : s.isEmpty = true ↔ s = empty := by
  cases s
  simp [isEmpty, empty, and_assoc]

theorem add_ne_empty (s : ConstructorShape) (form : ConstructorForm) : s.add form ≠ empty := by
  cases form <;> simp [add, empty]

/-- Reading another token takes no constructor away. -/
theorem foldlM_ne_empty {tokens : List Text} (hs : s ≠ empty)
    (h : tokens.foldlM (fun (shape : ConstructorShape) token =>
      match ConstructorForm.ofToken? token with
      | some form => Except.ok (shape.add form)
      | none => .error (⟨token⟩ : ShapeError)) s = .ok s') : s' ≠ empty := by
  induction tokens generalizing s with
  | nil =>
      cases h
      exact hs
  | cons token tokens ih =>
      rw [List.foldlM_cons] at h
      cases hform : ConstructorForm.ofToken? token with
      | none =>
          rw [hform] at h
          cases h
      | some form =>
          rw [hform] at h
          exact ih (add_ne_empty s form) h

/-- A shape without constructors is one without tokens. -/
theorem ofTokens_eq_empty_iff {tokens : List Text} : ofTokens tokens = .ok empty ↔ tokens = [] := by
  constructor
  · intro h
    cases tokens with
    | nil => rfl
    | cons token tokens =>
        rw [ofTokens, List.foldlM_cons] at h
        cases hform : ConstructorForm.ofToken? token with
        | none =>
            rw [hform] at h
            cases h
        | some form =>
            rw [hform] at h
            exact absurd rfl (foldlM_ne_empty (add_ne_empty empty form) h)
  · rintro rfl
    rfl

end ConstructorShape

namespace ShapeTable

theorem known_ne_empty {name : Text} {shape : ConstructorShape}
    (h : known.lookup name = some shape) : shape ≠ .empty := by
  have hall : ∀ entry ∈ known, entry.2 ≠ .empty := by decide
  obtain ⟨before, after, heq, -⟩ := List.lookup_eq_some_iff.mp h
  exact hall (name, shape) (by simp [heq])

end ShapeTable

namespace Settings

variable {shapes : List (Text × List Text)} {table : ShapeTable} {name : Text}

/-- The shapes name no constructor of the class: its entry has no tokens, or that of the class in
the implicit package, if the class has no entry of its own. -/
def LeavesOut (shapes : List (Text × List Text)) (name : Text) : Prop :=
  shapes.lookup name = some [] ∨
    shapes.lookup name = none ∧ ShapeTable.known.lookup name = none ∧
      name.startsWith ShapeTable.implicitPackage = false ∧
      shapes.lookup (ShapeTable.implicitPackage ++ name) = some []

/-- An entry for each of the shapes, without constructors exactly if the shape has no tokens. -/
theorem lookup_mapM {f : Text × List Text → Except SettingsError (Text × ConstructorShape)}
    (hf : ∀ written entry, f written = .ok entry →
      entry.1 = written.1 ∧ (entry.2 = .empty ↔ written.2 = []))
    {entries : List (Text × ConstructorShape)} (h : shapes.mapM f = .ok entries) (name : Text) :
    (entries.lookup name = none ↔ shapes.lookup name = none) ∧
      (entries.lookup name = some .empty ↔ shapes.lookup name = some []) := by
  induction shapes generalizing entries with
  | nil =>
      cases h
      simp
  | cons written rest ih =>
      rw [List.mapM_cons] at h
      cases hwritten : f written with
      | error e =>
          rw [hwritten] at h
          cases h
      | ok entry =>
          cases hrest : rest.mapM f with
          | error e =>
              rw [hwritten, hrest] at h
              cases h
          | ok entries =>
              rw [hwritten, hrest] at h
              cases h
              obtain ⟨hname, hempty⟩ := hf written entry hwritten
              rw [List.lookup_cons, List.lookup_cons, hname]
              cases hfound : name == written.1 with
              | true => simp [hempty]
              | false => exact ih hrest

/-- The table has an entry for a class exactly if the shapes or the known classes have one, and one
without constructors exactly if the shapes give it no tokens. -/
theorem lookup_entries (h : tableOf shapes = .ok table) (name : Text) :
    (table.entries.lookup name = none ↔
        shapes.lookup name = none ∧ ShapeTable.known.lookup name = none) ∧
      (table.entries.lookup name = some .empty ↔ shapes.lookup name = some []) := by
  simp only [tableOf, bind, Except.bind] at h
  split at h
  next => cases h
  next entries hentries =>
    cases h
    have hlookup := lookup_mapM (fun written entry hentry => ?_) hentries name
    · obtain ⟨hnone, hempty⟩ := hlookup
      constructor
      · rw [List.lookup_append, Option.or_eq_none_iff, hnone]
      · rw [List.lookup_append, Option.or_eq_some_iff, hempty]
        exact or_iff_left fun ⟨_, hknown⟩ => ShapeTable.known_ne_empty hknown rfl
    · split at hentry
      next shape hshape =>
        cases hentry
        refine ⟨rfl, ?_⟩
        rw [← ConstructorShape.ofTokens_eq_empty_iff, hshape, Except.ok.injEq]
      next => cases hentry

/-- The table knows a class without constructors exactly if the shapes leave it out. -/
theorem lookup_eq_empty_iff (h : tableOf shapes = .ok table) (name : Text) :
    table.lookup name = some .empty ↔ LeavesOut shapes name := by
  obtain ⟨hnone, hempty⟩ := lookup_entries h name
  obtain ⟨-, himplicit⟩ := lookup_entries h (ShapeTable.implicitPackage ++ name)
  rw [ShapeTable.lookup, LeavesOut, ← hempty, ← himplicit]
  cases hlookup : table.entries.lookup name with
  | some shape =>
      have hfound : ¬ (shapes.lookup name = none ∧ ShapeTable.known.lookup name = none) :=
        fun hnot => Option.some_ne_none shape (hlookup.symm.trans (hnone.mpr hnot))
      simp only
      rw [← and_assoc]
      exact (or_iff_left fun hnot => hfound hnot.1).symm
  | none =>
      obtain ⟨hshapes, hknown⟩ := hnone.mp hlookup
      cases himplied : name.startsWith ShapeTable.implicitPackage <;> simp [hshapes, hknown]

end Settings
end MessageCatalog
