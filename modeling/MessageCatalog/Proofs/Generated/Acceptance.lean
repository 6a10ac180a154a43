import MessageCatalog.Proofs.Bundle.FirstResource
import MessageCatalog.Proofs.Generated.Refusal
import MessageCatalog.Proofs.Template.Arity

/-!
# Accepted bundles

An accessor class needs a text of every resource, and from the text the number of its arguments. A
properties file needs the texts only. So each of the two is refused for certain resources, and for
the first of these in order of declaration, whatever style, names, header and context are; and a
bundle that is accepted as an accessor class is accepted as a properties file.

**Results.**
* `Resource.describe_eq_error`: why a resource is refused.
* `Managed.render_eq_error`, `Managed.render_isRefused_iff`: which accessor classes are refused.
* `Managed.render_eq_generation`: the refusal of a class without too long an index.
* `Properties.render_eq_error`: which properties files are refused.
-/

namespace MessageCatalog

variable {b : Bundle} {r : Resource} {source : Path} {e : RenderError} {header : Header}
  {x : Context}

/-- A list is gone through up to the first element for which there is no result. -/
theorem mapM_eq_error_iff_isFirst {ε α β : Type} {f : α → Except ε β} {p : α → Prop}
    (hp : ∀ a, p a ↔ ∃ e, f a = .error e) {as : List α} {e : ε} :
    as.mapM f = .error e ↔ ∃ a, IsFirst p as a ∧ f a = .error e := by
  have hfine : ∀ a, (∃ y, f a = .ok y) ↔ ¬ p a := by
    intro a
    rw [hp]
    cases f a with
    | ok y => simp
    | error e => simp
  rw [mapM_eq_error]
  simp only [hfine]
  constructor
  · rintro ⟨before, a, after, hsplit, hbefore, ha⟩
    exact ⟨a, ⟨(hp a).mpr ⟨e, ha⟩, before, after, hsplit, hbefore⟩, ha⟩
  · rintro ⟨a, ⟨-, before, after, hsplit, hbefore⟩, ha⟩
    exact ⟨before, a, after, hsplit, hbefore, ha⟩

section Resources

namespace Resource

/-- There is no signature for the resource: it has no text, or a text with an index that is beyond
the parameter limit or has too many digits to be converted. -/
def LacksSignature (r : Resource) : Prop :=
  r.text = none ∨ ∃ text digits, r.text = some text ∧ Template.IsIndexOf digits text ∧
    (Signature.maxParameters ≤ Text.digitsValue digits ∨ Text.maxDigits < digits.length)

/-- The resource has no text, or a text with an index beyond the parameter limit. -/
def IsBeyondLimit (r : Resource) : Prop :=
  r.text = none ∨ ∃ text digits, r.text = some text ∧ Template.IsIndexOf digits text ∧
    Signature.maxParameters ≤ Text.digitsValue digits

/-- No index of the text has too many digits or needs a number of arguments that has. -/
def HasShortIndices (r : Resource) : Prop :=
  ∀ text digits, r.text = some text → Template.IsIndexOf digits text → ¬ Template.IsLong digits

/-- Why there is no signature for a resource. -/
inductive Refuses (r : Resource) (source : Path) : RenderError → Prop where
  | noText (htext : r.text = none) :
      Refuses r source (.generation ⟨.noText, some source, some r.name⟩)
  /-- An index has too many digits, or the number of arguments has. -/
  | number {text digits : Text} (htext : r.text = some text)
      (hindex : Template.IsIndexOf digits text) (hlong : Template.IsLong digits) :
      Refuses r source .numberTooLong
  /-- The highest index is beyond the parameter limit. -/
  | tooMany {text : Text} (htext : r.text = some text)
      (hshort : ∀ digits, Template.IsIndexOf digits text → ¬ Template.IsLong digits)
      (hmany : Signature.maxParameters < Template.arity text) :
      Refuses r source
        (.generation ⟨.tooManyParameters (Template.arity text - 1), some source, some r.name⟩)

theorem Refuses.describe_eq (h : r.Refuses source e) : r.describe source = .error e := by
  cases h with
  | noText htext => rw [describe, requireText, htext]
  | number htext hindex hlong =>
      have hsignature := Template.signature_eq_numberTooLong.mpr ⟨_, hindex, hlong⟩
      rw [describe, requireText, htext]
      dsimp only
      rw [hsignature]
  | tooMany htext hshort hmany =>
      have hsignature := Template.signature_of_arity fun ⟨digits, hindex, hdigits⟩ =>
        hshort digits hindex hdigits
      rw [if_neg (Nat.not_le.mpr hmany)] at hsignature
      rw [describe, requireText, htext]
      dsimp only
      rw [hsignature]

theorem exists_refuses_iff (r : Resource) (source : Path) :
    (∃ e, r.Refuses source e) ↔ r.LacksSignature := by
  constructor
  · rintro ⟨_, htext | ⟨htext, hindex, hlong⟩ | ⟨htext, -, hmany⟩⟩
    · exact .inl htext
    · refine .inr ⟨_, _, htext, hindex, ?_⟩
      rcases hlong with hlength | hlargest
      · exact .inr hlength
      · have hbound := Template.maxParameters_lt
        rw [← hlargest] at hbound
        exact .inl (Nat.lt_succ_iff.mp hbound)
    · obtain ⟨digits, hindex, hvalue⟩ := Template.lt_arity_iff.mp hmany
      exact .inr ⟨_, digits, htext, hindex, .inl hvalue⟩
  · rintro (htext | ⟨text, digits, htext, hindex, hbad⟩)
    · exact ⟨_, .noText htext⟩
    · by_cases hlong : ∃ digits, Template.IsIndexOf digits text ∧ Template.IsLong digits
      · obtain ⟨digits, hindex, hdigits⟩ := hlong
        exact ⟨_, .number htext hindex hdigits⟩
      · have hshort : ∀ digits, Template.IsIndexOf digits text → ¬ Template.IsLong digits :=
          fun digits hindex hdigits => hlong ⟨digits, hindex, hdigits⟩
        rcases hbad with hvalue | hlength
        · exact ⟨_, .tooMany htext hshort (Template.lt_arity_iff.mpr ⟨digits, hindex, hvalue⟩)⟩
        · exact absurd (.inl hlength) (hshort digits hindex)

theorem exists_describe (h : ¬ r.LacksSignature) (source : Path) :
    ∃ d, r.describe source = .ok d := by
  rw [LacksSignature, not_or] at h
  obtain ⟨text, htext⟩ := Option.ne_none_iff_exists'.mp h.1
  have hfine (digits : Text) (hindex : Template.IsIndexOf digits text) :
      Text.digitsValue digits < Signature.maxParameters ∧ digits.length ≤ Text.maxDigits := by
    have hgood := not_or.mp fun hbad => h.2 ⟨text, digits, htext, hindex, hbad⟩
    exact ⟨Nat.not_le.mp hgood.1, Nat.not_lt.mp hgood.2⟩
  have hlong : ¬ Template.HasLongIndex text := by
    rintro ⟨digits, hindex, hdigits⟩
    exact Template.not_isLong (hfine digits hindex).2 (hfine digits hindex).1 hdigits
  have hsignature := Template.signature_of_arity hlong
  rw [if_pos (Template.arity_le_iff.mpr fun digits hindex => (hfine digits hindex).1)] at hsignature
  rw [describe, requireText, htext]
  dsimp only
  rw [hsignature]
  exact ⟨_, rfl⟩

theorem describe_eq_error : r.describe source = .error e ↔ r.Refuses source e := by
  refine ⟨fun h => ?_, Refuses.describe_eq⟩
  by_cases hlacks : r.LacksSignature
  · obtain ⟨e', hrefuses⟩ := (r.exists_refuses_iff source).mpr hlacks
    cases hrefuses.describe_eq.symm.trans h
    exact hrefuses
  · obtain ⟨d, hd⟩ := exists_describe hlacks source
    cases hd.symm.trans h

/-- A resource is refused, for whatever source, exactly if there is no signature for it. -/
theorem lacksSignature_iff (r : Resource) (source : Path) :
    r.LacksSignature ↔ ∃ e, r.describe source = .error e := by
  simp only [describe_eq_error, exists_refuses_iff]

namespace HasShortIndices

/-- Source and resource are named. -/
theorem eq_generation (hshort : r.HasShortIndices) (h : r.Refuses source e) :
    ∃ cause, e = .generation ⟨cause, some source, some r.name⟩ := by
  rcases h with - | ⟨htext, hindex, hlong⟩ | -
  · exact ⟨_, rfl⟩
  · exact absurd hlong (hshort _ _ htext hindex)
  · exact ⟨_, rfl⟩

theorem lacksSignature_iff (hshort : r.HasShortIndices) : r.LacksSignature ↔ r.IsBeyondLimit := by
  refine or_congr_right (exists_congr fun text => exists_congr fun digits => ?_)
  refine and_congr_right fun htext => and_congr_right fun hindex => or_iff_left fun hlength => ?_
  exact hshort text digits htext hindex (.inl hlength)

end HasShortIndices

theorem requireText_eq_error {e : RenderError} :
    (r.requireText source).mapError RenderError.generation = .error e ↔
      r.text = none ∧ e = .generation ⟨.noText, some source, some r.name⟩ := by
  unfold requireText
  cases r.text with
  | none => simp [Except.mapError, eq_comm]
  | some text => simp [Except.mapError]

end Resource

/-- No index in a text of the bundle has too many digits or needs a number of arguments that has. -/
def Bundle.HasShortIndices (b : Bundle) : Prop :=
  ∀ r ∈ b.resources, r.HasShortIndices

end Resources

namespace Managed

variable {style : AccessorStyle} {className : Text} {baseClass : Option Text}

/-- An accessor class is refused for the first resource that there is no signature for. -/
theorem render_eq_error :
    (outcome (render style b className header baseClass) x).1 = .error e ↔
      ∃ r, IsFirst Resource.LacksSignature b.resources r ∧ r.Refuses header.source e := by
  rw [render_failsAs style className header baseClass x, Bundle.describe,
    mapM_eq_error_iff_isFirst fun r => r.lacksSignature_iff header.source]
  simp only [Resource.describe_eq_error]

theorem render_isRefused_iff (style : AccessorStyle) (b : Bundle) (className : Text)
    (header : Header) (baseClass : Option Text) (x : Context) :
    (∃ e, (outcome (render style b className header baseClass) x).1 = .error e) ↔
      ∃ r ∈ b.resources, r.LacksSignature := by
  simp only [render_eq_error]
  rw [← exists_isFirst_iff]
  constructor
  · rintro ⟨e, r, hfirst, -⟩
    exact ⟨r, hfirst⟩
  · rintro ⟨r, hfirst⟩
    obtain ⟨e, herror⟩ := (r.lacksSignature_iff header.source).mp hfirst.has
    exact ⟨e, r, hfirst, Resource.describe_eq_error.mp herror⟩

/-- Without too long an index, the refusal names the first resource in the way. -/
theorem render_eq_generation (hshort : b.HasShortIndices)
    (h : (outcome (render style b className header baseClass) x).1 = .error e) :
    ∃ r cause, IsFirst Resource.IsBeyondLimit b.resources r ∧
      e = .generation ⟨cause, some header.source, some r.name⟩ := by
  obtain ⟨r, hfirst, hrefuses⟩ := render_eq_error.mp h
  obtain ⟨cause, rfl⟩ := (hshort r hfirst.mem).eq_generation hrefuses
  refine ⟨r, cause, ?_, rfl⟩
  exact (isFirst_congr fun r hr => (hshort r hr).lacksSignature_iff).mp hfirst

theorem render_isRefused_iff_of_short (hshort : b.HasShortIndices) :
    (∃ e, (outcome (render style b className header baseClass) x).1 = .error e) ↔
      ∃ r ∈ b.resources, r.IsBeyondLimit := by
  rw [render_isRefused_iff]
  exact exists_congr fun r => and_congr_right fun hr => (hshort r hr).lacksSignature_iff

end Managed

section PropertiesFiles

namespace Properties

variable {className : Text}

theorem entryOf_failsAs (source : Path) (r : Resource) :
    FailsAs (entryOf source r) ((r.requireText source).mapError .generation) := by
  refine (FailsAs.mk _).bind_ok fun text => ?_
  by_cases hquotes : text.count '\'' % 2 = 1
  · rw [if_pos hquotes]
    exact (FailsAs.modifyGet _ ()).bind_ok fun _ => .pure _ _
  · rw [if_neg hquotes]
    exact .pure _ _

/-- A properties file is refused for the first resource without a text. -/
theorem render_eq_error :
    (outcome (render b className header) x).1 = .error e ↔
      ∃ r, IsFirst (·.text = none) b.resources r ∧
        e = .generation ⟨.noText, some header.source, some r.name⟩ := by
  have hnoText : ∀ r : Resource, r.text = none ↔
      ∃ e, (r.requireText header.source).mapError RenderError.generation = .error e := by
    intro r
    simp [Resource.requireText_eq_error]
  have hrender : FailsAs (render b className header) (b.resources.mapM fun r =>
      (r.requireText header.source).mapError .generation) :=
    (FailsAs.mapM (entryOf_failsAs header.source) b.resources).bind_ok fun _ => .pure _ _
  rw [hrender x, mapM_eq_error_iff_isFirst hnoText]
  refine exists_congr fun r => and_congr_right fun hfirst => ?_
  rw [Resource.requireText_eq_error, and_iff_right hfirst.has]

theorem render_isRefused_iff :
    (∃ e, (outcome (render b className header) x).1 = .error e) ↔
      ∃ r ∈ b.resources, r.text = none := by
  simp only [render_eq_error]
  rw [← exists_isFirst_iff]
  constructor
  · rintro ⟨e, r, hfirst, -⟩
    exact ⟨r, hfirst⟩
  · rintro ⟨r, hfirst⟩
    exact ⟨_, r, hfirst, rfl⟩

end Properties

/-- A bundle that is accepted as an accessor class is accepted as a properties file. -/
theorem properties_of_managed {style : AccessorStyle} {className className' : Text}
    {header header' : Header} {baseClass : Option Text} {x x' : Context}
    (h : ∃ text, (outcome (Managed.render style b className header baseClass) x).1 = .ok text) :
    ∃ text, (outcome (Properties.render b className' header') x').1 = .ok text := by
  cases hrender : (outcome (Properties.render b className' header') x').1 with
  | ok text => exact ⟨text, rfl⟩
  | error e =>
      obtain ⟨r, hr, htext⟩ := Properties.render_isRefused_iff.mp ⟨e, hrender⟩
      obtain ⟨e', herror⟩ := (Managed.render_isRefused_iff style b className header baseClass x).mpr
        ⟨r, hr, .inl htext⟩
      obtain ⟨text, hok⟩ := h
      cases herror.symm.trans hok

end PropertiesFiles

end MessageCatalog
