import MessageCatalog.Managed.Source
import MessageCatalog.Proofs.Managed.Layout
import MessageCatalog.Proofs.Template.Index

/-!
# Methods of an accessor class

What methods an accessor class has is decided by the descriptions of its resources and by the
factories that the context gives them, in either style. A text is refused if it refers to more
arguments than a method can take; the factory that takes a cause has one parameter more than the
text has arguments.

**Results.**
* `classOf_eq_ok`: a class that is built has the accessors of its resources, or definitions that
  suit them.
* `mem_map_parameters_methods`: the parameter lists of a class are those of the accessors of its
  resources, whatever the style.
* `render_parameter_limit`: a method that takes more parameters than the limit is the factory with a
  cause of an exception whose text has as many arguments as the limit allows.
-/

namespace MessageCatalog

theorem Template.length_kinds_le {template : Text} {s : Signature}
    (h : Template.signature template = .ok s) : s.kinds.length ≤ Signature.maxParameters := by
  unfold Template.signature at h
  dsimp only at h
  split at h
  · cases h
  · split at h
    · cases h
      exact Nat.zero_le _
    · split at h
      next highest _ hfew =>
        cases h
        rw [List.length_map, List.length_range]
        exact hfew
      next =>
        split at h
        · cases h
        · cases h

/-- One of the factories takes a cause exactly if causes are allowed and some constructor takes
one. -/
theorem FactoryPlan.exists_takesCause_iff {shape : Option ConstructorShape} {causeAllowed : Bool} :
    (∃ plan ∈ forShape shape causeAllowed, plan.takesCause = true) ↔
      causeAllowed = true ∧ ∃ s, shape = some s ∧ s.acceptsCause = true := by
  cases shape with
  | none => simp [forShape]
  | some shape =>
      obtain ⟨message, messageCause, object, objectCause⟩ := shape
      cases message <;> cases messageCause <;> cases object <;> cases objectCause <;>
        cases causeAllowed <;> decide

namespace Managed

variable {b : Bundle} {c : Context}

/-- The methods of the resources of a class; those of its definitions are methods of the nested
classes. -/
def Body.methods (outer : Text) : Body → List Method
  | .direct accessors => accessors.flatMap Accessor.methods
  | .functor _ definitions => definitions.flatMap (·.methods outer)

/-- The parameter lists of all methods of a class. The first two methods give access to its
instances. -/
def Class.parameterLists (c : Class) : List (List Parameter) :=
  let instances : List (List Parameter) := [[], [⟨"Locale", "locale"⟩]]
  instances ++ (c.body.methods (ClassName.simple c.className)).map Method.parameters

section Classes

/-- The members of a class that has been built in the given style for described resources. -/
inductive Body.IsOf (c : Context) (b : Bundle) (ds : List Description) : AccessorStyle → Body → Prop
  | direct : IsOf c b ds .direct (.direct (ds.map (accessorIn c b)))
  | functor {members : List FunctorMember} {definitions : List Definition}
      (hlays : Lays c b ds [] members definitions) :
      IsOf c b ds .functor (.functor members definitions)

theorem bodyOf_isOf {style : AccessorStyle} {source : Path} {x y : Context} {body : Body}
    (hplans : ∀ errorClass causeAllowed,
      plansIn x b errorClass causeAllowed = plansIn c b errorClass causeAllowed)
    (h : outcome (bodyOf style b source) x = (.ok body, y)) :
    ∃ ds, List.Forall₂ (fun r d => r.describe source = .ok d) b.resources ds ∧
      Body.IsOf c b ds style body := by
  have hfollows := functorBody_follows source b.resources (Context.Agrees.refl x) hplans []
    (fun _ h => by cases h) []
  cases style with
  | direct =>
      obtain ⟨accessors, z, haccessors, hpure⟩ := outcome_bind_eq_ok.mp h
      cases hpure
      rw [haccessors] at hfollows
      generalize outcome (functorBody _ _ _ _ _) _ = laid at hfollows
      cases hfollows with
      | laid _ hdescribed _ => exact ⟨_, hdescribed, .direct⟩
  | functor =>
      have hbody : outcome (functorBody b source b.resources [] []) x = (.ok body, y) := h
      rw [hbody] at hfollows
      generalize outcome (b.resources.mapM _) _ = accessors at hfollows
      cases hfollows with
      | laid _ hdescribed hlays => exact ⟨_, hdescribed, .functor hlays⟩

theorem classOf_eq_ok {style : AccessorStyle} {className : Text} {header : Header}
    {baseClass : Option Text} {cls : Class}
    (h : (outcome (classOf style b className header baseClass) c).1 = .ok cls) :
    ∃ ds, List.Forall₂ (fun r d => r.describe header.source = .ok d) b.resources ds ∧
      Body.IsOf c b ds style cls.body := by
  obtain ⟨body, d, hbody, hclass⟩ := outcome_bind_eq_ok.mp
    ((outcome_bind_of_ok (outcome_modify _ c)).symm.trans (outcome_of_fst h))
  cases hclass
  exact bodyOf_isOf (plansIn_record c _) hbody

end Classes

section Parameters

/-- The parameter lists of the methods that a resource has: its parameters, then for each factory
the parameters and the cause, if the factory takes one. -/
theorem map_parameters_methods (c : Context) (b : Bundle) (d : Description) :
    (accessorIn c b d).methods.map Method.parameters =
      d.signature.parameters types ::
        (plansIn c b (errorClass d.resource b) (allowsCause d.resource)).map fun plan =>
          factoryParameters plan (d.signature.parameters types) := by
  unfold Accessor.methods Accessor.factoryMethods accessorIn
  cases errorClass d.resource b with
  | none => rfl
  | some errorClass =>
      rw [List.map_cons, List.map_map]
      rfl

theorem Definition.Suits.map_parameters {d : Definition} {a : Accessor} (h : d.Suits a)
    (outer : Text) :
    (d.methods outer).map Method.parameters = a.methods.map Method.parameters := by
  have hfactories := congrArg (List.map Prod.snd) (h.declarations outer)
  rw [List.map_map, List.map_map] at hfactories
  rw [Definition.methods, Accessor.methods, List.map_cons, List.map_cons]
  exact congrArg₂ List.cons h.parameters hfactories

/-- A definition behind the resources is one that was there, or it has the key of a resource. -/
theorem Lays.made {ds : List Description} {definitions definitions' : List Definition}
    {members : List FunctorMember} (h : Lays c b ds definitions members definitions') :
    ∀ d ∈ definitions', d ∈ definitions ∨ ∃ described ∈ ds, d.key = keyOf b described := by
  induction h with
  | done definitions => exact fun d hd => .inl hd
  | shared _ _ _ ih =>
      intro d hd
      rcases ih d hd with hd | ⟨described, hmem, hkey⟩
      · exact .inl hd
      · exact .inr ⟨described, List.mem_cons_of_mem _ hmem, hkey⟩
  | new _ _ ih =>
      intro d hd
      rcases ih d hd with hd | ⟨described, hmem, hkey⟩
      · rcases List.mem_append.mp hd with hd | hd
        · exact .inl hd
        · rw [List.mem_singleton.mp hd]
          exact .inr ⟨_, List.mem_cons_self, rfl⟩
      · exact .inr ⟨described, List.mem_cons_of_mem _ hmem, hkey⟩

/-- The parameter lists of a class are those of the accessors of its resources, whatever the
style. -/
theorem mem_map_parameters_methods {style : AccessorStyle} {ds : List Description} {body : Body}
    (h : Body.IsOf c b ds style body) {outer : Text} {parameters : List Parameter} :
    parameters ∈ (body.methods outer).map Method.parameters ↔
      ∃ d ∈ ds, parameters ∈ (accessorIn c b d).methods.map Method.parameters := by
  cases h with
  | direct =>
      rw [Body.methods, List.map_flatMap, List.mem_flatMap]
      simp only [List.mem_map, exists_exists_and_eq_and]
  | @functor members definitions hlays =>
      have hareOf := hlays.areOf (areOf_nil c b)
      rw [Body.methods, List.map_flatMap, List.mem_flatMap]
      constructor
      · rintro ⟨d, hd, hmem⟩
        obtain hnone | ⟨described, hdescribed, hkey⟩ := hlays.made d hd
        · cases hnone
        · refine ⟨described, hdescribed, ?_⟩
          rwa [((hareOf.made d hd).suits hkey).map_parameters outer] at hmem
      · rintro ⟨described, hdescribed, hmem⟩
        obtain ⟨m, -, hfinds⟩ := exists_of_mem_right (hlays.finds (areOf_nil c b))
          (List.mem_map_of_mem hdescribed)
        obtain ⟨d, hd, -, hsuits⟩ := hfinds.refers
        exact ⟨d, hd, by rwa [hsuits.map_parameters outer]⟩

end Parameters

/-- The text of the resource has as many arguments as a method can take, and the class of its
exceptions takes a cause. -/
structure LeavesNoRoom (c : Context) (b : Bundle) (r : Resource) : Prop where
  full : ∃ text signature, r.text = some text ∧ Template.signature text = .ok signature ∧
    signature.kinds.length = Signature.maxParameters
  causeAllowed : allowsCause r = true
  takesCause : ∃ name shape, errorClass r b = some name ∧
    c.shapeIn name (b.hintsFor name) = some shape ∧ shape.acceptsCause = true

theorem exists_takesCause_plansIn {r : Resource} :
    (∃ plan ∈ plansIn c b (errorClass r b) (allowsCause r), plan.takesCause = true) ↔
      allowsCause r = true ∧ ∃ name shape, errorClass r b = some name ∧
        c.shapeIn name (b.hintsFor name) = some shape ∧ shape.acceptsCause = true := by
  cases hclass : errorClass r b with
  | none => simp [plansIn]
  | some name =>
      rw [plansIn, FactoryPlan.exists_takesCause_iff]
      simp

theorem length_factoryParameters (plan : FactoryPlan) (parameters : List Parameter) :
    (factoryParameters plan parameters).length =
      parameters.length + if plan.takesCause then 1 else 0 := by
  unfold factoryParameters
  rw [List.length_append]
  split <;> rfl

/-- A parameter list of a resource is within the limit, or it is full without the cause at its
end. -/
theorem length_parameters_le {d : Description}
    (hle : d.signature.kinds.length ≤ Signature.maxParameters) {parameters : List Parameter}
    (h : parameters ∈ (accessorIn c b d).methods.map Method.parameters) :
    parameters.length ≤ Signature.maxParameters ∨
      ∃ arguments, parameters = arguments ++ [⟨"Throwable", "err"⟩] ∧
        arguments.length = Signature.maxParameters := by
  rw [← Signature.length_parameters d.signature types] at hle
  rw [map_parameters_methods] at h
  rcases List.mem_cons.mp h with rfl | h
  · exact .inl hle
  · obtain ⟨plan, -, rfl⟩ := List.mem_map.mp h
    have hlength := length_factoryParameters plan (d.signature.parameters types)
    cases htakes : plan.takesCause with
    | false =>
        rw [htakes] at hlength
        exact .inl (hlength ▸ hle)
    | true =>
        rcases Nat.lt_or_eq_of_le hle with hlt | heq
        · refine .inl ?_
          rw [hlength, htakes]
          exact hlt
        · refine .inr ⟨_, ?_, heq⟩
          rw [factoryParameters, htakes]
          rfl

/-- A method of a resource exceeds the limit exactly if the resource leaves no room for a cause. -/
theorem exceeds_iff {r : Resource} {source : Path} {d : Description}
    (h : r.describe source = .ok d) :
    (∃ parameters ∈ (accessorIn c b d).methods.map Method.parameters,
        Signature.maxParameters < parameters.length) ↔ LeavesNoRoom c b r := by
  obtain rfl := resource_of_describe h
  obtain ⟨htext, hsignature⟩ := text_of_describe h
  have hle := Template.length_kinds_le hsignature
  have hlength := Signature.length_parameters d.signature types
  rw [map_parameters_methods]
  constructor
  · rintro ⟨parameters, hmem, hlong⟩
    rcases List.mem_cons.mp hmem with rfl | hmem
    · omega
    · -- only a cause goes beyond the arguments of the text
      obtain ⟨plan, hplan, rfl⟩ := List.mem_map.mp hmem
      rw [length_factoryParameters, hlength] at hlong
      cases htakes : plan.takesCause with
      | false =>
          rw [htakes] at hlong
          exact absurd hlong (Nat.not_lt.mpr hle)
      | true =>
          rw [htakes, if_pos rfl] at hlong
          obtain ⟨hallowed, hclass⟩ := exists_takesCause_plansIn.mp ⟨plan, hplan, htakes⟩
          exact ⟨⟨d.text, d.signature, htext, hsignature, by omega⟩, hallowed, hclass⟩
  · rintro ⟨⟨text, signature, htext', hsignature', hfull⟩, hallowed, hclass⟩
    obtain rfl : d.text = text := Option.some.inj (htext.symm.trans htext')
    obtain rfl : d.signature = signature := Except.ok.inj (hsignature.symm.trans hsignature')
    obtain ⟨plan, hplan, htakes⟩ := exists_takesCause_plansIn.mpr ⟨hallowed, hclass⟩
    refine ⟨_, List.mem_cons_of_mem _ (List.mem_map_of_mem hplan), ?_⟩
    rw [length_factoryParameters, hlength, hfull, htakes, if_pos rfl]
    exact Nat.lt_succ_self _

theorem mem_parameterLists {style : AccessorStyle} {ds : List Description} {cls : Class}
    (h : Body.IsOf c b ds style cls.body) {parameters : List Parameter} :
    parameters ∈ cls.parameterLists ↔ parameters ∈ [[], [⟨"Locale", "locale"⟩]] ∨
      ∃ d ∈ ds, parameters ∈ (accessorIn c b d).methods.map Method.parameters := by
  rw [Class.parameterLists, List.mem_append, mem_map_parameters_methods h]

/-- A class that is rendered keeps to the limit, apart from the factories with a cause of those
exceptions whose texts have as many arguments as the limit allows. -/
theorem render_parameter_limit {style : AccessorStyle} {b : Bundle} {className : Text}
    {header : Header} {baseClass : Option Text} {c : Context} {text : Text}
    (h : (outcome (render style b className header baseClass) c).1 = .ok text) :
    ∃ cls, (outcome (classOf style b className header baseClass) c).1 = .ok cls ∧
      text = cls.text ∧
      (∀ parameters ∈ cls.parameterLists, parameters.length ≤ Signature.maxParameters ∨
        ∃ arguments, parameters = arguments ++ [⟨"Throwable", "err"⟩] ∧
          arguments.length = Signature.maxParameters) ∧
      ((∃ parameters ∈ cls.parameterLists, Signature.maxParameters < parameters.length) ↔
        ∃ r ∈ b.resources, LeavesNoRoom c b r) := by
  obtain ⟨cls, x, hclass, htext⟩ := outcome_bind_eq_ok.mp (outcome_of_fst h)
  cases htext
  obtain ⟨ds, hdescribes, hbody⟩ := classOf_eq_ok (congrArg Prod.fst hclass)
  have hinstances : ∀ parameters ∈ ([[], [⟨"Locale", "locale"⟩]] : List (List Parameter)),
      parameters.length ≤ Signature.maxParameters := by decide
  refine ⟨cls, congrArg Prod.fst hclass, rfl, fun parameters hmem => ?_, ?_⟩
  · rcases (mem_parameterLists hbody).mp hmem with hinstance | ⟨d, hd, hmem⟩
    · exact .inl (hinstances parameters hinstance)
    · obtain ⟨r, -, hdescribe⟩ := exists_of_mem_right hdescribes hd
      exact length_parameters_le (Template.length_kinds_le (text_of_describe hdescribe).2) hmem
  · constructor
    · rintro ⟨parameters, hmem, hlong⟩
      rcases (mem_parameterLists hbody).mp hmem with hinstance | ⟨d, hd, hmem⟩
      · exact absurd hlong (Nat.not_lt.mpr (hinstances parameters hinstance))
      · obtain ⟨r, hr, hdescribe⟩ := exists_of_mem_right hdescribes hd
        exact ⟨r, hr, (exceeds_iff hdescribe).mp ⟨parameters, hmem, hlong⟩⟩
    · rintro ⟨r, hr, hroom⟩
      obtain ⟨d, hd, hdescribe⟩ := exists_of_mem_left hdescribes hr
      obtain ⟨parameters, hmem, hlong⟩ := (exceeds_iff hdescribe).mpr hroom
      exact ⟨parameters, (mem_parameterLists hbody).mpr (.inr ⟨d, hd, hmem⟩), hlong⟩

/-- An exception whose text refers to the last argument that a method can take. -/
def fullException : Resource :=
  ⟨"a", .exception, some "\x7b254\x7d", [], none, some ⟨none, none, none, none⟩⟩

/-- A bundle of that exception alone. -/
def fullBundle : Bundle :=
  ⟨none, [fullException], ⟨none, none, none, none, none, none, []⟩⟩

/-- The exceptions of the default class take a cause, so that one factory has a parameter too
many. -/
theorem fullBundle_exceeds_limit :
    ∃ cls, (outcome (classOf .direct fullBundle "N" ⟨.ofText "s/N.xml", true, []⟩ none)
        (.start .standard)).1 = .ok cls ∧
      ∃ parameters ∈ cls.parameterLists, Signature.maxParameters < parameters.length := by
  have hrendered : ∃ text, (outcome (render .direct fullBundle "N" ⟨.ofText "s/N.xml", true, []⟩
      none) (.start .standard)).1 = .ok text := ⟨_, rfl⟩
  obtain ⟨text, htext⟩ := hrendered
  obtain ⟨cls, hclass, -, -, hexceeds⟩ := render_parameter_limit htext
  refine ⟨cls, hclass, hexceeds.mpr ⟨fullException, List.mem_cons_self, ?_, by decide, ?_⟩⟩
  · exact ⟨_, _, rfl, rfl, by decide +kernel⟩
  · exact ⟨_, _, rfl, rfl, by decide +kernel⟩

end Managed
end MessageCatalog
