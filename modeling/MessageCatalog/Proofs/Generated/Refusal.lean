import MessageCatalog.Managed.Source
import MessageCatalog.Native.Source
import MessageCatalog.Proofs.Computation
import MessageCatalog.Proofs.Template.Index
import MessageCatalog.Properties.File

/-!
# Refused renderings

A class is made of the descriptions of all resources of a bundle, and it is refused for the first
resource that cannot be described, whatever the context. A resource whose text has a long index is
refused for a number; such a refusal is told apart from all others, because no bundle is meant to
have it.

**Results.**
* `Bundle.StopsAtNumber`, `Bundle.describe_eq_numberTooLong`: when the resources of a bundle are
  refused for a number.
* `Managed.render_failsAs`, `Native.classOf_failsAs`: a class is refused as the descriptions are.
* `Properties.render_not_number`: a properties file is never refused for a number.
-/

namespace MessageCatalog

theorem bind_pure_eq_error {ε α β : Type} {x : Except ε α} {g : α → β} {e : ε} :
    (do let a ← x; pure (g a)) = .error e ↔ x = .error e := by
  cases x with
  | ok a =>
      constructor
      · rintro ⟨⟩
      · rintro ⟨⟩
  | error e' =>
      constructor
      · rintro ⟨⟩
        rfl
      · rintro ⟨⟩
        rfl

/-- A list is gone through up to the first element for which there is no result. -/
theorem mapM_eq_error {ε α β : Type} {f : α → Except ε β} {as : List α} {e : ε} :
    as.mapM f = .error e ↔
      ∃ before a after, as = before ++ a :: after ∧ (∀ x ∈ before, ∃ y, f x = .ok y) ∧
        f a = .error e := by
  induction as with
  | nil => simp [pure, Except.pure]
  | cons first rest ih =>
      rw [List.mapM_cons]
      cases hfirst : f first with
      | error e' =>
          constructor
          · rintro ⟨⟩
            exact ⟨[], first, rest, rfl, by simp, hfirst⟩
          · rintro ⟨before, a, after, hsplit, hbefore, ha⟩
            cases before with
            | nil =>
                cases hsplit
                rw [← hfirst, ha]
                rfl
            | cons x before =>
                cases hsplit
                obtain ⟨y, hy⟩ := hbefore first List.mem_cons_self
                rw [hy] at hfirst
                cases hfirst
      | ok y =>
          have hrest : (do let y ← Except.ok y; let ys ← rest.mapM f; pure (y :: ys)) = .error e ↔
              rest.mapM f = .error e := bind_pure_eq_error
          rw [hrest, ih]
          constructor
          · rintro ⟨before, a, after, rfl, hbefore, ha⟩
            exact ⟨first :: before, a, after, rfl, by simpa [hfirst] using hbefore, ha⟩
          · rintro ⟨before, a, after, hsplit, hbefore, ha⟩
            cases before with
            | nil =>
                cases hsplit
                rw [hfirst] at ha
                cases ha
            | cons x before =>
                cases hsplit
                exact ⟨before, a, after, rfl, fun x hx => hbefore x (List.mem_cons_of_mem _ hx), ha⟩

theorem Resource.requireText_ne_numberTooLong {r : Resource} {source : Path} :
    (r.requireText source).mapError RenderError.generation ≠ .error .numberTooLong := by
  cases r.requireText source with
  | ok text => rintro ⟨⟩
  | error e => rintro ⟨⟩

theorem Resource.describe_eq_numberTooLong {r : Resource} {source : Path} :
    r.describe source = .error .numberTooLong ↔
      ∃ text, r.text = some text ∧ Template.HasLongIndex text := by
  unfold Resource.describe Resource.requireText
  cases htext : r.text with
  | none => simp
  | some text =>
      simp only [Option.some.injEq, exists_eq_left', ← Template.signature_eq_numberTooLong]
      cases Template.signature text with
      | ok signature => simp
      | error e =>
          cases e with
          | tooManyParameters highest => simp
          | numberTooLong => simp

namespace Bundle

/-- The descriptions of all resources, or the reason why the first one that has none is refused. -/
def describe (b : Bundle) (source : Path) : Except RenderError (List Description) :=
  b.resources.mapM (·.describe source)

/-- The first resource that cannot be described is one whose text has a long index. -/
def StopsAtNumber (b : Bundle) (source : Path) : Prop :=
  ∃ before r after text, b.resources = before ++ r :: after ∧
    (∀ r' ∈ before, ∃ d, r'.describe source = .ok d) ∧
    r.text = some text ∧ Template.HasLongIndex text

theorem describe_eq_numberTooLong {b : Bundle} {source : Path} :
    b.describe source = .error .numberTooLong ↔ b.StopsAtNumber source := by
  unfold describe StopsAtNumber
  rw [mapM_eq_error]
  constructor
  · rintro ⟨before, r, after, hsplit, hbefore, hr⟩
    obtain ⟨text, htext, hlong⟩ := Resource.describe_eq_numberTooLong.mp hr
    exact ⟨before, r, after, text, hsplit, hbefore, htext, hlong⟩
  · rintro ⟨before, r, after, text, hsplit, hbefore, htext, hlong⟩
    exact ⟨before, r, after, hsplit, hbefore,
      Resource.describe_eq_numberTooLong.mpr ⟨text, htext, hlong⟩⟩

end Bundle

section Classes

variable {b : Bundle}

namespace Managed

theorem factoriesFor_failsAs (errorClass : Option Text) (causeAllowed : Bool) :
    FailsAs (factoriesFor b errorClass causeAllowed) (.ok ⟨⟩ : Except RenderError Unit) := by
  cases errorClass with
  | none => exact .pure _ _
  | some errorClass => exact (FailsAs.modifyGet _ _).bind_ok fun _ => .pure _ _

theorem accessorOf_failsAs (source : Path) (r : Resource) :
    FailsAs (accessorOf b source r) (r.describe source) :=
  (FailsAs.mk _).bind_ok fun _ => (factoriesFor_failsAs _ _).bind_ok fun _ => .pure _ _

theorem definitionOf_failsAs (described : Description) (definitions : List Definition) :
    FailsAs (definitionOf b described definitions) (.ok ⟨⟩ : Except RenderError Unit) := by
  unfold definitionOf
  cases hfind : definitions.find? (·.key = keyOf b described) with
  | some definition =>
      simp only [hfind]
      exact .pure _ _
  | none =>
      simp only [hfind]
      exact (factoriesFor_failsAs _ _).bind_ok fun _ => .pure _ _

theorem functorBody_failsAs (source : Path) (rs : List Resource) (members : List FunctorMember)
    (definitions : List Definition) :
    FailsAs (functorBody b source rs members definitions) (rs.mapM (·.describe source)) := by
  induction rs generalizing members definitions with
  | nil => exact .pure _ _
  | cons r rest ih =>
      rw [List.mapM_cons]
      refine (FailsAs.mk (r.describe source)).bind fun described described' => ?_
      refine (definitionOf_failsAs described definitions).bind
        (g := fun _ => do let rest ← rest.mapM (·.describe source); pure (described' :: rest))
        fun result _ => ?_
      intro c e
      rw [ih _ _ c e]
      exact bind_pure_eq_error.symm

/-- The accessor class of a bundle is refused as the descriptions of its resources are. -/
theorem render_failsAs (style : AccessorStyle) (className : Text) (header : Header)
    (baseClass : Option Text) :
    FailsAs (render style b className header baseClass) (b.describe header.source) := by
  have hbody : FailsAs (bodyOf style b header.source) (b.describe header.source) := by
    cases style with
    | direct =>
        exact (FailsAs.mapM (accessorOf_failsAs header.source) b.resources).bind_ok
          fun _ => .pure _ _
    | functor => exact functorBody_failsAs header.source b.resources [] []
  have hclass : FailsAs (classOf style b className header baseClass) (b.describe header.source) :=
    (FailsAs.modifyGet _ ()).bind (g := fun _ => b.describe header.source)
      fun _ _ => hbody.bind_ok fun _ => .pure _ _
  exact hclass.bind_ok fun _ => .pure _ _

end Managed

namespace Native

theorem memberOf_eq_error {source : Path} {r : Resource} {e : RenderError} :
    memberOf b source r = .error e ↔ r.describe source = .error e :=
  bind_pure_eq_error

theorem members_eq_error {source : Path} {e : RenderError} :
    b.resources.mapM (memberOf b source) = .error e ↔ b.describe source = .error e := by
  have hok : ∀ r, (∃ member, memberOf b source r = .ok member) ↔
      ∃ described, r.describe source = .ok described := by
    intro r
    unfold memberOf
    cases r.describe source with
    | ok described => exact ⟨fun _ => ⟨_, rfl⟩, fun _ => ⟨_, rfl⟩⟩
    | error e' =>
        constructor
        · rintro ⟨member, ⟨⟩⟩
        · rintro ⟨described, ⟨⟩⟩
  unfold Bundle.describe
  simp only [mapM_eq_error, memberOf_eq_error, hok]

/-- The native class of a bundle is refused as the descriptions of its resources are, unless it is
refused before. -/
theorem classOf_failsAs {className : Text} {header : Header} (baseClass : Text)
    (hsimple : className.contains '.' = false) (hvalid : validate b header.source = .ok ⟨⟩) :
    FailsAs (classOf b className header baseClass) (b.describe header.source) := by
  have hmembers : FailsAs (Rendering.ofExcept (b.resources.mapM (memberOf b header.source)))
      (b.describe header.source) := by
    intro c e
    rw [← members_eq_error]
    exact FailsAs.mk (b.resources.mapM (memberOf b header.source)) c e
  unfold classOf
  rw [if_neg (Bool.eq_false_iff.mp hsimple), hvalid]
  exact (FailsAs.modifyGet _ ()).bind (g := fun _ => b.describe header.source)
    fun _ _ => hmembers.bind_ok fun _ => .pure _ _

/-- A native class is refused for a number only behind the other checks. -/
theorem classOf_eq_numberTooLong {className : Text} {header : Header} {baseClass : Text}
    {c : Context} (hvalid : validate b header.source = .ok ⟨⟩) :
    (outcome (classOf b className header baseClass) c).1 = .error .numberTooLong ↔
      className.contains '.' = false ∧ b.StopsAtNumber header.source := by
  cases hqualified : className.contains '.' with
  | true =>
      unfold classOf
      rw [if_pos hqualified]
      simp
  | false =>
      rw [classOf_failsAs baseClass hqualified hvalid c, Bundle.describe_eq_numberTooLong]
      simp

end Native

namespace Properties

/-- A base properties file has the texts as they are, so that no index is ever converted. -/
theorem render_not_number (className : Text) (header : Header) :
    StopsWith (· ≠ .numberTooLong) (render b className header) := by
  refine .bind (.mapM fun r _ => .bind ?_ fun text => ?_) fun _ => .pure _
  · intro c e c' h hnumber
    rw [hnumber] at h
    exact Resource.requireText_ne_numberTooLong (congrArg Prod.fst h)
  · by_cases hquotes : text.count '\'' % 2 = 1
    · rw [if_pos hquotes]
      refine .bind ?_ fun _ => .pure _
      intro c e c' h
      cases h
    · rw [if_neg hquotes]
      exact .pure _

end Properties

end Classes

end MessageCatalog
