import MessageCatalog.Proofs.Computation
import MessageCatalog.Settings.Basic

/-!
# What validation settles

Settings stand for a configuration if their words, read without case and blanks around them, name its
mode and its styles, their directories are those of the configuration as far as they are given, and
there is nothing in them that a run could not use. Validation finds this configuration. Written back,
a configuration names everything by its own name and gives every directory, so it stands for itself.

**Results.**
* `Settings.StandsFor`, `Settings.validate_eq_ok_iff`: the settings that validation accepts.
* `Configuration.settings_standsFor`: a validated configuration stands for itself.
* `Settings.ofTokens_of_tableOf`: shapes that validation accepts make a table.
-/

namespace MessageCatalog

theorem Mode.lookup_name (mode : Mode) :
    Mode.names.lookup (Settings.word mode.name) = some mode := by
  cases mode <;> decide

theorem AccessorStyle.lookup_name (style : AccessorStyle) :
    AccessorStyle.names.lookup (Settings.word style.name) = some style := by
  cases style <;> decide

theorem AccessorStyle.ofName?_name (style : AccessorStyle) : ofName? style.name = some style := by
  cases style <;> decide

theorem CommentStyle.lookup_name (style : CommentStyle) :
    CommentStyle.names.lookup (Settings.word style.name) = some style := by
  cases style <;> decide

namespace Settings

variable {s : Settings} {c : Configuration} {shapes : List (Text × List Text)} {table : ShapeTable}

/-- The settings stand for the configuration. -/
structure StandsFor (s : Settings) (c : Configuration) : Prop where
  mode : Mode.names.lookup (word s.mode) = some c.mode
  style : AccessorStyle.names.lookup (word s.style) = some c.style
  commentStyle : CommentStyle.names.lookup (word s.commentStyle) = some c.commentStyle
  source : s.source = some c.source
  destination : s.destination.getD c.source = c.destination
  resources : s.resources.getD c.destination = c.resources
  locales : s.locales = c.locales
  force : s.force = c.force
  includes : s.includes = c.includes
  nonempty : c.includes.isEmpty = false
  named : (c.includes.any fun item => item.name = []) = false
  shapes : s.shapes = c.shapes
  table : tableOf c.shapes = .ok c.table

theorem standsFor_of_validate (h : s.validate = .ok c) : s.StandsFor c := by
  unfold validate at h
  cases hmode : Mode.names.lookup (word s.mode) with
  | none => rw [hmode] at h; cases h
  | some mode =>
  rw [hmode] at h
  cases hstyle : AccessorStyle.names.lookup (word s.style) with
  | none => rw [hstyle] at h; cases h
  | some style =>
  rw [hstyle] at h
  cases hcomment : CommentStyle.names.lookup (word s.commentStyle) with
  | none => rw [hcomment] at h; cases h
  | some commentStyle =>
  rw [hcomment] at h
  cases hsource : s.source with
  | none => rw [hsource] at h; cases h
  | some source =>
  rw [hsource] at h
  cases hempty : s.includes.isEmpty with
  | true => rw [hempty] at h; cases h
  | false =>
  rw [hempty] at h
  cases hnamed : (s.includes.any fun item => item.name = []) with
  | true => rw [hnamed] at h; cases h
  | false =>
  rw [hnamed] at h
  cases htable : tableOf s.shapes with
  | error e => rw [htable] at h; cases h
  | ok table =>
  rw [htable] at h
  cases h
  exact ⟨hmode, hstyle, hcomment, hsource, rfl, rfl, rfl, rfl, rfl, hempty, hnamed, rfl, htable⟩

theorem StandsFor.validate_eq (h : s.StandsFor c) : s.validate = .ok c := by
  obtain ⟨hmode, hstyle, hcomment, hsource, hdestination, hresources, hlocales, hforce, hincludes,
    hempty, hnamed, hshapes, htable⟩ := h
  unfold validate
  rw [hmode, hstyle, hcomment, hsource, hincludes, hempty, hnamed, hshapes, htable, hlocales, hforce]
  simp only [hdestination, hresources]
  rfl

/-- Validation accepts the settings that stand for a configuration, and finds it. -/
theorem validate_eq_ok_iff : s.validate = .ok c ↔ s.StandsFor c :=
  ⟨standsFor_of_validate, StandsFor.validate_eq⟩

theorem tableOf_of_validate (h : s.validate = .ok c) : tableOf s.shapes = .ok c.table := by
  have hstands := standsFor_of_validate h
  rw [hstands.shapes, hstands.table]

/-- The shapes make a table if validation accepts them. -/
theorem ofTokens_of_tableOf (h : tableOf shapes = .ok table) :
    ShapeTable.ofTokens shapes = .ok table := by
  have hcorresponds : Corresponds (fun _ _ => True) Eq (tableOf shapes)
      (ShapeTable.ofTokens shapes) := by
    refine .bind (.mapM (fun written => ?_) shapes) fun entries _ heq => .ok (heq ▸ rfl)
    cases hshape : ConstructorShape.ofTokens written.2 with
    | ok shape => simp only [hshape]; exact .ok rfl
    | error e => simp only [hshape]; exact .error trivial
  rw [h] at hcorresponds
  generalize ShapeTable.ofTokens shapes = result at hcorresponds
  cases hcorresponds with
  | ok heq => rw [heq]

end Settings

namespace Configuration

variable {s : Settings} {c : Configuration}

/-- A configuration that settings stand for stands for itself. -/
theorem settings_standsFor (h : s.StandsFor c) : c.settings.StandsFor c where
  mode := c.mode.lookup_name
  style := c.style.lookup_name
  commentStyle := c.commentStyle.lookup_name
  source := rfl
  destination := rfl
  resources := rfl
  locales := rfl
  force := rfl
  includes := rfl
  nonempty := h.nonempty
  named := h.named
  shapes := rfl
  table := h.table

theorem settings_isManaged (c : Configuration) : c.settings.isManaged = c.mode.isManaged := by
  have hname (mode : Mode) :
      ([Mode.managed, .all].any (·.name == mode.name)) = mode.isManaged := by
    cases mode <;> decide
  exact hname c.mode

theorem settings_isNative (c : Configuration) : c.settings.isNative = c.mode.isNative := by
  have hname (mode : Mode) :
      ([Mode.native, .all].any (·.name == mode.name)) = mode.isNative := by
    cases mode <;> decide
  exact hname c.mode

theorem settings_isStable (c : Configuration) :
    c.settings.isStable = decide (c.commentStyle = .stable) := by
  have hname (style : CommentStyle) :
      (style.name == CommentStyle.stable.name) = decide (style = .stable) := by
    cases style <;> decide
  exact hname c.commentStyle

end Configuration
end MessageCatalog
