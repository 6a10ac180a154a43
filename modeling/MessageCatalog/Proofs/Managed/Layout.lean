import Mathlib.Data.List.Nodup
import MessageCatalog.Proofs.Context.Agreement
import MessageCatalog.Proofs.Generated.Description
import MessageCatalog.Proofs.Template.ParameterList

/-!
# The two layouts of an accessor class

In direct style every resource has its own methods; in functor style resources share definition
classes. What a definition holds is decided by its key and by what the context answers, and a
context goes on to answer as it did. So a resource finds in the definition it refers to what direct
style gives it, and a definition that exists already keeps no warning back: its exception class has
been asked for, with the hints of the same bundle.

**Results.**
* `Definition.Suits`: a definition has everything that the accessor of a resource has.
* `Lays`: how the resources of a list extend the definitions, given what direct style makes of them.
* `functorBody_follows`: both styles go through the resources alike, with the same error or without
  one.
* `render_styles_agree`: both styles are refused alike, or their members agree.
-/

namespace MessageCatalog
namespace Managed

open Context

variable {b : Bundle} {c c' d : Context}

section Resources

/-- The factories of an exception class, by the shape that the context has for it. -/
def plansIn (c : Context) (b : Bundle) (errorClass : Option Text) (causeAllowed : Bool) :
    List FactoryPlan :=
  match errorClass with
  | none => []
  | some errorClass =>
      FactoryPlan.forShape (c.shapeIn errorClass (b.hintsFor errorClass)) causeAllowed

/-- The context has been asked for the exception class, if there is one. -/
def KnowsClass (c : Context) (b : Bundle) (errorClass : Option Text) : Prop :=
  ∀ name, errorClass = some name → c.Knows name (b.hintsFor name)

/-- The members of a resource in direct style, as the context answers. -/
def accessorIn (c : Context) (b : Bundle) (described : Description) : Accessor where
  described
  errorClass := errorClass described.resource b
  factories := plansIn c b (errorClass described.resource b) (allowsCause described.resource)

/-- The definition at an index that is made for a resource, as the context answers. -/
def definitionIn (c : Context) (b : Bundle) (index : Nat) (described : Description) :
    Definition where
  index
  key := keyOf b described
  signature := described.signature
  factories := plansIn c b (errorClass described.resource b) (allowsCause described.resource)

/-- The state of the context behind the question for the shape of an exception class. -/
def askedFor (c : Context) (b : Bundle) (errorClass : Option Text) : Context :=
  match errorClass with
  | none => c
  | some errorClass => (c.resolve errorClass (b.hintsFor errorClass)).2

theorem plansIn_of_agrees (h : Agrees c c') (errorClass : Option Text) (causeAllowed : Bool) :
    plansIn c b errorClass causeAllowed = plansIn c' b errorClass causeAllowed := by
  cases errorClass with
  | none => rfl
  | some errorClass =>
      unfold plansIn
      simp only [h.shapeIn]

theorem plansIn_askedFor (c : Context) (asked errorClass : Option Text) (causeAllowed : Bool) :
    plansIn (askedFor c b asked) b errorClass causeAllowed =
      plansIn c b errorClass causeAllowed := by
  cases asked with
  | none => rfl
  | some asked =>
      cases errorClass with
      | none => rfl
      | some errorClass =>
          unfold plansIn askedFor
          simp only [shapeIn_resolve]

theorem askedFor_agrees (h : Agrees c c') (errorClass : Option Text) :
    Agrees (askedFor c b errorClass) (askedFor c' b errorClass) := by
  cases errorClass with
  | none => exact h
  | some errorClass => exact h.resolve errorClass _

theorem askedFor_agrees_of_knows (h : Agrees c c') {errorClass : Option Text}
    (hknows : KnowsClass c' b errorClass) : Agrees (askedFor c b errorClass) c' := by
  cases errorClass with
  | none => exact h
  | some errorClass => exact h.resolve_of_knows (hknows errorClass rfl)

theorem knowsClass_askedFor (c : Context) (errorClass : Option Text) :
    KnowsClass (askedFor c b errorClass) b errorClass := by
  rintro name rfl
  exact knows_resolve c name _

theorem KnowsClass.askedFor {errorClass : Option Text} (h : KnowsClass c b errorClass)
    (asked : Option Text) : KnowsClass (askedFor c b asked) b errorClass := by
  intro name hname
  cases asked with
  | none => exact h name hname
  | some asked => exact (h name hname).resolve asked _

theorem outcome_factoriesFor (errorClass : Option Text) (causeAllowed : Bool) (c : Context) :
    outcome (factoriesFor b errorClass causeAllowed) c =
      (.ok (plansIn c b errorClass causeAllowed), askedFor c b errorClass) := by
  cases errorClass with
  | none => rfl
  | some errorClass =>
      unfold factoriesFor Rendering.shapeOf
      rw [outcome_bind_of_ok (outcome_modifyGet _ c)]
      rw [outcome_pure, resolve_fst]
      rfl

/-- Direct style asks for the exception class of every resource. -/
theorem outcome_accessorOf (source : Path) (r : Resource) (c : Context) :
    outcome (accessorOf b source r) c =
      match r.describe source with
      | .error e => (.error e, c)
      | .ok described => (.ok (accessorIn c b described), askedFor c b (errorClass r b)) := by
  unfold accessorOf
  cases hdescribe : r.describe source with
  | error e => rfl
  | ok described =>
      obtain rfl := resource_of_describe hdescribe
      have hdescribed : outcome (Rendering.ofExcept (.ok described)) c = (.ok described, c) := rfl
      rw [outcome_bind_of_ok hdescribed, outcome_bind_of_ok (outcome_factoriesFor _ _ c)]
      rfl

/-- Functor style asks only for the exception class of a resource that no definition suits. -/
theorem outcome_definitionOf (described : Description) (definitions : List Definition)
    (c : Context) :
    outcome (definitionOf b described definitions) c =
      match definitions.find? (·.key = keyOf b described) with
      | some definition => (.ok (definition, definitions), c)
      | none =>
          (.ok (definitionIn c b definitions.length described,
              definitions ++ [definitionIn c b definitions.length described]),
            askedFor c b (errorClass described.resource b)) := by
  unfold definitionOf
  cases hfind : definitions.find? (·.key = keyOf b described) with
  | some definition => simp only [hfind, outcome_pure]
  | none =>
      simp only [hfind, outcome_bind_of_ok (outcome_factoriesFor _ _ c)]
      rfl

end Resources

section Definitions

/-- The definition is made for a bundle, as the context answers. -/
structure Definition.IsOf (c : Context) (b : Bundle) (d : Definition) : Prop where
  parameters : d.key.parameters = d.signature.parameters types
  factories : d.factories = plansIn c b d.key.errorClass d.key.causeAllowed

/-- The definitions are numbered in order, and no two have the same key. -/
structure AreOf (c : Context) (b : Bundle) (definitions : List Definition) : Prop where
  indexed : definitions.map Definition.index = List.range definitions.length
  keys : (definitions.map Definition.key).Nodup
  made : ∀ d ∈ definitions, d.IsOf c b

/-- The definition has everything that the accessor of a resource has. -/
structure Definition.Suits (d : Definition) (a : Accessor) : Prop where
  parameters : d.key.parameters = a.parameters
  arguments : argumentArray d.signature = argumentArray a.described.signature
  errorClass : d.key.errorClass = a.errorClass
  /-- In order, what each factory hands to the constructor: the instance or the message, then null,
  the given cause or nothing. -/
  factories : d.factories = a.factories
  /-- In order, what each factory returns and takes. -/
  declarations : ∀ outer, (d.factoryMethods outer).map (fun m => (m.result, m.parameters)) =
    a.factoryMethods.map fun m => (m.result, m.parameters)

theorem areOf_nil (c : Context) (b : Bundle) : AreOf c b [] :=
  ⟨rfl, List.nodup_nil, fun _ h => by cases h⟩

theorem isOf_definitionIn (c : Context) (b : Bundle) (index : Nat) (described : Description) :
    (definitionIn c b index described).IsOf c b :=
  ⟨rfl, rfl⟩

/-- A new definition is one whose key no other has. -/
theorem AreOf.append {definitions : List Definition} (h : AreOf c b definitions)
    {described : Description} (hnew : keyOf b described ∉ definitions.map Definition.key) :
    AreOf c b (definitions ++ [definitionIn c b definitions.length described]) where
  indexed := by
    rw [List.map_append, h.indexed, List.length_append, List.length_singleton, List.range_succ]
    rfl
  keys := by
    rw [List.map_append, List.map_singleton]
    exact List.Nodup.append h.keys (List.nodup_singleton _)
      (List.disjoint_singleton.mpr hnew)
  made := by
    intro d hd
    rcases List.mem_append.mp hd with hd | hd
    · exact h.made d hd
    · rw [List.mem_singleton.mp hd]
      exact isOf_definitionIn c b _ described

/-- The key of a definition decides everything that a resource finds in it. -/
theorem Definition.IsOf.suits {d : Definition} (h : d.IsOf c b) {described : Description}
    (hkey : d.key = keyOf b described) : d.Suits (accessorIn c b described) where
  parameters := by rw [hkey]; rfl
  arguments := by
    have hparameters : d.signature.parameters types = described.signature.parameters types := by
      rw [← h.parameters, hkey]
      rfl
    have harguments : d.signature.arguments = described.signature.arguments := by
      rw [← Signature.map_name_parameters d.signature types, hparameters,
        Signature.map_name_parameters]
    unfold argumentArray accessorIn
    rw [harguments]
  errorClass := by rw [hkey]; rfl
  factories := by rw [h.factories, hkey]; rfl
  declarations := by
    intro outer
    unfold Definition.factoryMethods Accessor.factoryMethods
    rw [h.factories, hkey]
    cases hclass : errorClass described.resource b with
    | none => simp [keyOf, accessorIn, hclass]
    | some errorClass =>
        simp only [keyOf, accessorIn, hclass, List.map_map]
        rfl

theorem AreOf.names {definitions : List Definition} (h : AreOf c b definitions) :
    definitions.map Definition.name =
      (List.range definitions.length).map fun index => "_Def" ++ Text.ofNat index := by
  rw [← h.indexed, List.map_map]
  rfl

theorem name_injective {index index' : Nat}
    (h : ("_Def" : Text) ++ Text.ofNat index = "_Def" ++ Text.ofNat index') : index = index' :=
  Text.ofNat_injective (List.append_cancel_left h)

/-- No two definitions have the same name. -/
theorem AreOf.names_nodup {definitions : List Definition} (h : AreOf c b definitions) :
    (definitions.map Definition.name).Nodup := by
  rw [h.names]
  exact List.Nodup.map (fun _ _ => name_injective) List.nodup_range

end Definitions

section Laying

/-- The member of a resource whose definition is known. -/
def memberOf (described : Description) (d : Definition) : FunctorMember :=
  ⟨described, d.name⟩

/-- How described resources extend the definitions, and the members that they get: a resource whose
key a definition has refers to it, any other one to a new definition. -/
inductive Lays (c : Context) (b : Bundle) :
    List Description → List Definition → List FunctorMember → List Definition → Prop
  | done (definitions : List Definition) : Lays c b [] definitions [] definitions
  | shared {described : Description} {rest : List Description}
      {definitions definitions' : List Definition} {members : List FunctorMember} {d : Definition}
      (hmem : d ∈ definitions) (hkey : d.key = keyOf b described)
      (hrest : Lays c b rest definitions members definitions') :
      Lays c b (described :: rest) definitions (memberOf described d :: members) definitions'
  | new {described : Description} {rest : List Description}
      {definitions definitions' : List Definition} {members : List FunctorMember}
      (hkey : keyOf b described ∉ definitions.map Definition.key)
      (hrest : Lays c b rest
        (definitions ++ [definitionIn c b definitions.length described]) members definitions') :
      Lays c b (described :: rest) definitions
        (memberOf described (definitionIn c b definitions.length described) :: members) definitions'

/-- The member refers to a definition that has everything that the accessor has. -/
structure FunctorMember.Finds (m : FunctorMember) (definitions : List Definition) (a : Accessor) :
    Prop where
  described : m.described = a.described
  refers : ∃ d ∈ definitions, d.name = m.definition ∧ d.Suits a

namespace Lays

variable {ds : List Description} {definitions definitions' : List Definition}
  {members : List FunctorMember}

/-- The definitions that are there already stay in front. -/
theorem isPrefix (h : Lays c b ds definitions members definitions') :
    definitions <+: definitions' := by
  induction h with
  | done definitions => exact List.prefix_refl definitions
  | shared _ _ _ ih => exact ih
  | new _ _ ih => exact (List.prefix_append _ _).trans ih

theorem areOf (h : Lays c b ds definitions members definitions')
    (hdefinitions : AreOf c b definitions) : AreOf c b definitions' := by
  induction h with
  | done definitions => exact hdefinitions
  | shared _ _ _ ih => exact ih hdefinitions
  | new hkey _ ih => exact ih (hdefinitions.append hkey)

/-- Every resource finds its definition. -/
theorem finds (h : Lays c b ds definitions members definitions')
    (hdefinitions : AreOf c b definitions) :
    List.Forall₂ (fun m a => m.Finds definitions' a) members (ds.map (accessorIn c b)) := by
  induction h with
  | done definitions => exact .nil
  | shared hmem hkey hrest ih =>
      refine .cons ⟨rfl, ?_⟩ (ih hdefinitions)
      exact ⟨_, hrest.isPrefix.subset hmem, rfl, (hdefinitions.made _ hmem).suits hkey⟩
  | @new described rest definitions definitions' members hkey hrest ih =>
      refine .cons ⟨rfl, ?_⟩ (ih (hdefinitions.append hkey))
      refine ⟨definitionIn c b definitions.length described, hrest.isPrefix.subset ?_, rfl, ?_⟩
      · exact List.mem_append_right _ List.mem_cons_self
      · exact (isOf_definitionIn c b _ described).suits rfl

end Lays

/-- What becomes of the resources in both styles: they are refused alike, or those that are laid out
are those that direct style has its methods for. -/
inductive Follows (c : Context) (b : Bundle) (source : Path) (resources : List Resource)
    (members : List FunctorMember) (definitions : List Definition) :
    Except RenderError (List Accessor) × Context → Except RenderError Body × Context → Prop
  | refused {e : RenderError} {x y : Context} (hagrees : Agrees x y) :
      Follows c b source resources members definitions (.error e, x) (.error e, y)
  | laid {described : List Description} {members' : List FunctorMember}
      {definitions' : List Definition} {x y : Context} (hagrees : Agrees x y)
      (hdescribed : List.Forall₂ (fun r d => r.describe source = .ok d) resources described)
      (hlays : Lays c b described definitions members' definitions') :
      Follows c b source resources members definitions (.ok (described.map (accessorIn c b)), x)
        (.ok (.functor (members ++ members') definitions'), y)

/-- A resource that is laid out in front of others. -/
theorem Follows.cons {source : Path} {described : Description} {rest : List Resource}
    {members : List FunctorMember} {member : FunctorMember}
    {definitions definitions₁ : List Definition} {f : Rendering (List Accessor)} {x : Context}
    {z : Except RenderError Body × Context}
    (hdescribe : described.resource.describe source = .ok described)
    (hlays : ∀ {ds members' definitions'}, Lays c b ds definitions₁ members' definitions' →
      Lays c b (described :: ds) definitions (member :: members') definitions')
    (h : Follows c b source rest (members ++ [member]) definitions₁ (outcome f x) z) :
    Follows c b source (described.resource :: rest) members definitions
      (outcome (f >>= fun as => pure (accessorIn c b described :: as)) x) z := by
  generalize hf : outcome f x = w at h
  cases h with
  | refused hagrees =>
      rw [outcome_bind_of_error hf]
      exact .refused hagrees
  | laid hagrees hdescribed hrest =>
      rw [outcome_bind_of_ok hf, outcome_pure, List.append_assoc]
      exact .laid hagrees (.cons hdescribe hdescribed) (hlays hrest)

/-- Both styles go through the resources alike. Every definition that is there already has had its
exception class asked for, so that no warning about it is still to come. -/
theorem functorBody_follows (source : Path) (resources : List Resource) {x y : Context}
    (hagrees : Agrees x y)
    (hplans : ∀ errorClass causeAllowed,
      plansIn y b errorClass causeAllowed = plansIn c b errorClass causeAllowed)
    (definitions : List Definition)
    (hknows : ∀ d ∈ definitions, KnowsClass y b d.key.errorClass)
    (members : List FunctorMember) :
    Follows c b source resources members definitions
      (outcome (resources.mapM (accessorOf b source)) x)
      (outcome (functorBody b source resources members definitions) y) := by
  induction resources generalizing x y definitions members with
  | nil =>
      have hlaid : Follows c b source [] members definitions _ _ :=
        .laid hagrees .nil (Lays.done definitions)
      rw [List.append_nil] at hlaid
      exact hlaid
  | cons r rest ih =>
      rw [List.mapM_cons, functorBody]
      have haccessor := outcome_accessorOf (b := b) source r x
      cases hdescribe : r.describe source with
      | error e =>
          rw [hdescribe] at haccessor
          rw [outcome_bind_of_error haccessor]
          exact .refused hagrees
      | ok described =>
          obtain rfl := resource_of_describe hdescribe
          rw [hdescribe] at haccessor
          have hdescribed : outcome (Rendering.ofExcept (.ok described)) y = (.ok described, y) := rfl
          have hdefinition := outcome_definitionOf (b := b) described definitions y
          have hshared : accessorIn x b described = accessorIn c b described := by
            unfold accessorIn
            rw [plansIn_of_agrees hagrees, hplans]
          rw [outcome_bind_of_ok haccessor, outcome_bind_of_ok hdescribed]
          cases hfind : definitions.find? (·.key = keyOf b described) with
          | some d =>
              rw [hfind] at hdefinition
              have hmem := List.mem_of_find?_eq_some hfind
              have hkey : d.key = keyOf b described := by simpa using List.find?_some hfind
              have hknown : KnowsClass y b (errorClass described.resource b) := by
                have hclass := hknows d hmem
                rwa [hkey] at hclass
              rw [outcome_bind_of_ok hdefinition, hshared]
              exact .cons hdescribe (.shared hmem hkey)
                (ih (askedFor_agrees_of_knows hagrees hknown) hplans _ hknows _)
          | none =>
              rw [hfind] at hdefinition
              have hnew : keyOf b described ∉ definitions.map Definition.key := by
                simpa using hfind
              have hmade : definitionIn y b definitions.length described =
                  definitionIn c b definitions.length described := by
                unfold definitionIn
                rw [hplans]
              rw [outcome_bind_of_ok hdefinition, hshared, hmade]
              refine .cons hdescribe (.new hnew) (ih (askedFor_agrees hagrees _) ?_ _ ?_ _)
              · intro errorClass' causeAllowed
                rw [plansIn_askedFor, hplans]
              · intro d hd
                rcases List.mem_append.mp hd with hd | hd
                · exact (hknows d hd).askedFor _
                · rw [List.mem_singleton.mp hd]
                  exact knowsClass_askedFor y _

end Laying

section Styles

theorem filter_name_eq_singleton {definitions : List Definition}
    (hnames : (definitions.map Definition.name).Nodup) {d : Definition} (hd : d ∈ definitions) :
    definitions.filter (·.name = d.name) = [d] := by
  induction definitions with
  | nil => cases hd
  | cons e rest ih =>
      rw [List.map_cons, List.nodup_cons] at hnames
      rcases List.mem_cons.mp hd with rfl | hd
      · have hrest : rest.filter (·.name = d.name) = [] := by
          refine List.filter_eq_nil_iff.mpr fun other hother heq => hnames.1 ?_
          rw [← of_decide_eq_true heq]
          exact List.mem_map_of_mem hother
        rw [List.filter_cons_of_pos (by simp), hrest]
      · have hne : e.name ≠ d.name := fun heq => hnames.1 (heq ▸ List.mem_map_of_mem hd)
        rw [List.filter_cons_of_neg (by simpa using hne), ih hnames.2 hd]

/-- What is logged makes no difference to the factories. -/
theorem plansIn_record (c : Context) (r : LogRecord) (errorClass : Option Text)
    (causeAllowed : Bool) :
    plansIn (c.record r) b errorClass causeAllowed = plansIn c b errorClass causeAllowed := by
  cases errorClass with
  | none => rfl
  | some errorClass =>
      unfold plansIn shapeIn
      simp only [answer_eq]
      rfl

/-- The class is built from its members behind the record of its style. -/
theorem outcome_render (style : AccessorStyle) (b : Bundle) (className : Text) (header : Header)
    (baseClass : Option Text) (c : Context) :
    ∃ message, outcome (render style b className header baseClass) c =
      outcome (bodyOf style b header.source >>= fun body =>
        pure (Class.text ⟨header, className, baseClass, b.options.code, body⟩))
        (c.record (.of .debug "emitters.java" message)) := by
  refine ⟨"Rendering " ++ className ++ " in " ++ style.name ++ " style", ?_⟩
  unfold render classOf Rendering.log
  simp only [bind_assoc, pure_bind]
  rw [outcome_bind_of_ok (outcome_modify _ c)]

end Styles

end Managed
end MessageCatalog
