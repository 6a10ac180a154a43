import Mathlib.Data.List.Nodup
import Mathlib.Data.List.Pairwise
import MessageCatalog.Bundle.Reading
import MessageCatalog.Proofs.Managed.Methods
import MessageCatalog.Proofs.Native.Agreement

/-!
# Members with the same name

A bundle document is refused if two of its resources have the same name. The members of a generated
class are named after stems, which capitalise the name of a resource or set it off, and a native
class has functions of its own beside those of the resources.

**Results.**
* `Bundle.nodup_names_of_ofBytes`: the resources of a bundle that is read have different names.
* `Managed.direct_nodup_iff`: the members of an accessor class in direct style differ exactly if the
  stems of its resources do.
* `Native.Clash`, `Native.signatures_nodup_iff`: the functions of a native class differ exactly if
  no two of them clash, in one of four ways.
* `members_nodup_iff`: both, for the classes that are generated from a bundle that is read.
-/

namespace MessageCatalog

namespace Bundle

theorem nodup_names_addChildren {source : Text} {b b' : Bundle} {nodes : List Markup.Node}
    (hb : (b.resources.map (·.name)).Nodup) (h : addChildren source b nodes = .ok b') :
    (b'.resources.map (·.name)).Nodup := by
  fun_induction addChildren source b nodes with
  | case1 b =>
      cases h
      exact hb
  | case5 => cases h
  | case7 => cases h
  | case8 => cases h
  | case9 => cases h
  | case10 b tag attributes children rest hcode hfactory kind hkind resource hresource hnew ih =>
      refine ih ?_ h
      rw [List.map_append]
      exact hb.append (List.nodup_singleton _) (List.disjoint_singleton.mpr hnew)
  | case2 b t rest ih => exact ih hb h
  | case3 b t rest ih => exact ih hb h
  | case4 b attributes children rest ih => exact ih hb h
  | case6 b attributes children rest hcode hint hhint ih => exact ih hb h

/-- The resources of a bundle that is read have different names. -/
theorem nodup_names_of_ofBytes {source : Text} {bytes : Bytes} {b : Bundle}
    (h : ofBytes source bytes = .ok b) : (b.resources.map (·.name)).Nodup := by
  unfold ofBytes at h
  split at h
  next root _ =>
    unfold ofNode at h
    split at h
    · cases h
    · cases h
    · split at h
      · cases h
      · split at h
        · cases h
        · exact nodup_names_addChildren (by exact List.nodup_nil) h
  · cases h
  · cases h

end Bundle

namespace Managed

variable {b : Bundle} {c : Context}

/-- The names of the fields that hold the resources of a class. -/
def Body.fields : Body → List Text
  | .direct accessors => accessors.map (·.described.stem)
  | .functor members _ => members.map (·.described.stem)

/-- What tells a method from the others of its class: its name and the types of its parameters. -/
def Method.signature (m : Method) : Text × List Text :=
  (m.name, m.parameters.map Parameter.type)

theorem forShape_takesCause_nodup (shape : Option ConstructorShape) (causeAllowed : Bool) :
    ((FactoryPlan.forShape shape causeAllowed).map FactoryPlan.takesCause).Nodup := by
  cases shape with
  | none => exact List.nodup_nil
  | some shape =>
      obtain ⟨message, messageCause, object, objectCause⟩ := shape
      cases message <;> cases messageCause <;> cases object <;> cases objectCause <;>
        cases causeAllowed <;> decide

theorem plansIn_takesCause_nodup (errorClass : Option Text) (causeAllowed : Bool) :
    ((plansIn c b errorClass causeAllowed).map FactoryPlan.takesCause).Nodup := by
  cases errorClass with
  | none => exact List.nodup_nil
  | some errorClass => exact forShape_takesCause_nodup _ _

/-- A method of a resource is named after its stem, behind three letters. -/
theorem drop_name_of_mem_methods {d : Description} {m : Method}
    (h : m ∈ (accessorIn c b d).methods) : m.name.drop 3 = d.stem := by
  rcases List.mem_cons.mp h with rfl | h
  · rfl
  · unfold Accessor.factoryMethods at h
    split at h
    · cases h
    · obtain ⟨plan, -, rfl⟩ := List.mem_map.mp h
      rfl

/-- The methods of one resource differ: the accessor is named in its own way, and no two factories
take the same. -/
theorem signature_methods_nodup (c : Context) (b : Bundle) (d : Description) :
    ((accessorIn c b d).methods.map Method.signature).Nodup := by
  rw [Accessor.methods, List.map_cons, List.nodup_cons]
  unfold Accessor.factoryMethods
  cases hclass : (accessorIn c b d).errorClass with
  | none => exact ⟨List.not_mem_nil, List.nodup_nil⟩
  | some errorClass =>
      rw [List.map_map]
      constructor
      · intro hmem
        obtain ⟨plan, -, heq⟩ := List.mem_map.mp hmem
        have hname := congrArg Prod.fst heq
        cases hname
      · -- the plans differ in whether they take a cause, and the number of parameters tells that
        have hplans := plansIn_takesCause_nodup (c := c) (b := b) (Managed.errorClass d.resource b)
          (allowsCause d.resource)
        refine hplans.of_map.map_on fun plan hplan plan' hplan' heq => ?_
        refine List.inj_on_of_nodup_map hplans hplan hplan' ?_
        have hlength := congrArg (fun signature : Text × List Text => signature.2.length) heq
        simp only [Function.comp_apply, Method.signature, factoryMethod, List.length_map,
          length_factoryParameters, Nat.add_left_cancel_iff] at hlength
        cases htakes : plan.takesCause <;> cases htakes' : plan'.takesCause <;>
          simp_all

/-- The fields and the methods of a class in direct style are told apart exactly by the stems. -/
theorem direct_nodup_iff (c : Context) (b : Bundle) (ds : List Description) (outer : Text) :
    ((Body.direct (ds.map (accessorIn c b))).fields.Nodup ∧
      (((Body.direct (ds.map (accessorIn c b))).methods outer).map Method.signature).Nodup) ↔
      (ds.map Description.stem).Nodup := by
  have hfields : (Body.direct (ds.map (accessorIn c b))).fields = ds.map Description.stem := by
    rw [Body.fields, List.map_map]
    rfl
  rw [hfields]
  refine ⟨fun h => h.1, fun hstems => ⟨hstems, ?_⟩⟩
  rw [Body.methods, List.map_flatMap, List.flatMap_map, List.nodup_flatMap]
  refine ⟨fun d _ => signature_methods_nodup c b d, ?_⟩
  refine (List.pairwise_map.mp hstems).imp fun {d d'} hne signature hmem hmem' => hne ?_
  obtain ⟨m, hm, rfl⟩ := List.mem_map.mp hmem
  obtain ⟨m', hm', heq⟩ := List.mem_map.mp hmem'
  have hname : m'.name = m.name := congrArg Prod.fst heq
  rw [← drop_name_of_mem_methods hm, ← drop_name_of_mem_methods hm', hname]

end Managed

namespace Native

variable {b : Bundle}

/-- The types of the parameters of a resource. -/
def parameterTypes (d : Description) : List Text :=
  (d.signature.parameters types).map Parameter.type

/-- What tells a function from the others of its class: its name and the types of its parameters. -/
def Function.signature (f : Function) : Text × List Text :=
  (f.name, f.parameters.map Parameter.type)

/-- The functions that the header of a class declares whatever its members. The last one is a
friend. -/
def ownSignatures (className : Text) : List (Text × List Text) :=
  [(className, ["Locale"]), ('~' :: className, []), ("instance", []),
    ("instance", ["const Locale &"]), ("setResourceFileLocation", ["const std::string &"]),
    ("makeInstance", ["_BC &", "const Locale &"])]

/-- The functions that the header of a class declares. -/
def Class.signatures (c : Class) : List (Text × List Text) :=
  ownSignatures c.className ++ (c.members.flatMap Member.declarations).map Function.signature

/-- Two functions of the header have the same name and take the same types: a resource is named like
a function of the class, two exceptions have the same stem, or a resource is named like the factory
of an exception. -/
inductive Clash (b : Bundle) (ds : List Description) : Prop
  | instances {d : Description} (hd : d ∈ ds) (hname : d.resource.name = "instance".toList)
      (htypes : parameterTypes d = [])
  | location {d : Description} (hd : d ∈ ds)
      (hname : d.resource.name = "setResourceFileLocation".toList)
      (htypes : parameterTypes d = ["const std::string &".toList])
  | factories {d d' : Description} (hd : d ∈ ds) (hd' : d' ∈ ds)
      (hne : d.resource.name ≠ d'.resource.name)
      (hclass : (exceptionClass d.resource b).isSome)
      (hclass' : (exceptionClass d'.resource b).isSome)
      (hstem : d.stem = d'.stem) (htypes : parameterTypes d = parameterTypes d')
  | accessor {d d' : Description} (hd : d ∈ ds) (hd' : d' ∈ ds)
      (hclass : (exceptionClass d'.resource b).isSome)
      (hname : d.resource.name = "new".toList ++ d'.stem)
      (htypes : parameterTypes d = parameterTypes d')

/-- The signatures of the functions that a resource has. -/
def signaturesOf (b : Bundle) (d : Description) : List (Text × List Text) :=
  (functionsOf b d).map (·.function.signature)

/-- A type of the table, as against the pointer to an exception. -/
def isPlainType (type : Text) : Bool :=
  type = types.string || type = types.number || type = types.date || type = types.time

theorem isPlainType_of_mem {d : Description} {type : Text} (h : type ∈ parameterTypes d) :
    isPlainType type = true := by
  have hkind (kind : ParameterKind) : isPlainType (types.typeName kind) = true := by
    cases kind <;> decide
  obtain ⟨p, hp, rfl⟩ := List.mem_map.mp h
  obtain ⟨index, hindex, rfl⟩ := List.mem_mapIdx.mp hp
  exact hkind _

theorem isPlainType_pointer (className : Text) :
    isPlainType ("const " ++ className ++ " * const") = false := by
  have hfirst : ("const ".toList ++ className ++ " * const".toList).head? = some 'c' := rfl
  have hlast : ("const ".toList ++ className ++ " * const".toList).getLast? = some 't' := by
    rw [List.getLast?_append]
    rfl
  have hstring : types.string.getLast? = some '&' := by decide
  have hother : types.number.head? = some 'i' ∧ types.date.head? = some 't' ∧
      types.time.head? = some 't' := by decide
  -- the type of a text ends in another character, the other types begin with another one
  unfold isPlainType
  simp only [Bool.or_eq_false_iff, decide_eq_false_iff_not]
  refine ⟨⟨⟨?_, ?_⟩, ?_⟩, ?_⟩
  · intro heq
    rw [heq, hstring] at hlast
    cases hlast
  · intro heq
    rw [heq, hother.1] at hfirst
    cases hfirst
  · intro heq
    rw [heq, hother.2.1] at hfirst
    cases hfirst
  · intro heq
    rw [heq, hother.2.2] at hfirst
    cases hfirst

theorem signaturesOf_eq (b : Bundle) (d : Description) :
    signaturesOf b d = (d.resource.name, parameterTypes d) ::
      match exceptionClass d.resource b with
      | none => []
      | some className =>
          ("new".toList ++ d.stem, parameterTypes d) ::
            if IsChained d.resource then
              [("new".toList ++ d.stem,
                parameterTypes d ++ ["const " ++ className ++ " * const"])]
            else [] := by
  unfold signaturesOf functionsOf
  cases exceptionClass d.resource b with
  | none => rfl
  | some className =>
      by_cases hchained : IsChained d.resource
      · simp only [hchained, if_true, List.map_cons, Function.signature, List.map_append]
        rfl
      · simp only [hchained, if_false]
        rfl

/-- A function of a resource is its accessor, or a factory of its exceptions, which may take one
more parameter. -/
theorem mem_signaturesOf {d : Description} {signature : Text × List Text}
    (h : signature ∈ signaturesOf b d) :
    signature = (d.resource.name, parameterTypes d) ∨
      ∃ className, exceptionClass d.resource b = some className ∧
        (signature = ("new".toList ++ d.stem, parameterTypes d) ∨
          signature = ("new".toList ++ d.stem,
            parameterTypes d ++ ["const " ++ className ++ " * const"])) := by
  rw [signaturesOf_eq] at h
  rcases List.mem_cons.mp h with heq | h
  · exact .inl heq
  · cases hclass : exceptionClass d.resource b with
    | none =>
        rw [hclass] at h
        cases h
    | some className =>
        rw [hclass] at h
        refine .inr ⟨className, rfl, ?_⟩
        rcases List.mem_cons.mp h with heq | h
        · exact .inl heq
        · split at h
          · exact .inr (List.mem_singleton.mp h)
          · cases h

theorem accessor_mem_signaturesOf (b : Bundle) (d : Description) :
    (d.resource.name, parameterTypes d) ∈ signaturesOf b d :=
  List.mem_cons_self

theorem factory_mem_tail {d : Description} (h : (exceptionClass d.resource b).isSome) :
    ("new".toList ++ d.stem, parameterTypes d) ∈ (signaturesOf b d).tail := by
  obtain ⟨className, hclass⟩ := Option.isSome_iff_exists.mp h
  rw [signaturesOf_eq, hclass]
  exact List.mem_cons_self

theorem factory_mem_signaturesOf {d : Description} (h : (exceptionClass d.resource b).isSome) :
    ("new".toList ++ d.stem, parameterTypes d) ∈ signaturesOf b d :=
  List.mem_of_mem_tail (factory_mem_tail h)

/-- The types that a function takes determine those of its resource. -/
theorem filter_isPlainType {d : Description} {signature : Text × List Text}
    (h : signature ∈ signaturesOf b d) : signature.2.filter isPlainType = parameterTypes d := by
  have hplain : (parameterTypes d).filter isPlainType = parameterTypes d :=
    List.filter_eq_self.mpr fun type htype => isPlainType_of_mem htype
  rcases mem_signaturesOf h with rfl | ⟨className, -, rfl | rfl⟩
  · exact hplain
  · exact hplain
  · have hpointer := Bool.eq_false_iff.mp (isPlainType_pointer className)
    rw [List.filter_append, hplain, List.filter_cons_of_neg hpointer]
    exact List.append_nil _

/-- The functions of one resource differ, unless it is named like its own factory. -/
theorem signaturesOf_nodup {d : Description}
    (h : (exceptionClass d.resource b).isSome → d.resource.name ≠ "new".toList ++ d.stem) :
    (signaturesOf b d).Nodup := by
  rw [signaturesOf_eq]
  cases hclass : exceptionClass d.resource b with
  | none => exact List.nodup_singleton _
  | some className =>
      have hname := h (by rw [hclass]; rfl)
      have hlonger : parameterTypes d ≠
          parameterTypes d ++ ["const " ++ className ++ " * const"] := by simp
      by_cases hchained : IsChained d.resource
      · simp only [hchained, if_true, List.nodup_cons, List.mem_cons, Prod.mk.injEq, hname,
          hlonger, false_and, and_false, List.not_mem_nil, or_false, not_false_eq_true,
          List.nodup_nil, and_self]
      · simp only [hchained, if_false, List.nodup_cons, List.mem_cons, Prod.mk.injEq, hname,
          false_and, List.not_mem_nil, or_false, not_false_eq_true, List.nodup_nil, and_self]

theorem name_of_mem_signaturesOf {d : Description} {signature : Text × List Text}
    (h : signature ∈ signaturesOf b d) :
    signature = (d.resource.name, parameterTypes d) ∨
      (exceptionClass d.resource b).isSome ∧ signature.1 = "new".toList ++ d.stem := by
  rcases mem_signaturesOf h with heq | ⟨className, hclass, rfl | rfl⟩
  · exact .inl heq
  · exact .inr ⟨by rw [hclass]; rfl, rfl⟩
  · exact .inr ⟨by rw [hclass]; rfl, rfl⟩

/-- Functions of two resources differ, unless these clash. -/
theorem signaturesOf_disjoint {ds : List Description} (h : ¬ Clash b ds) {d d' : Description}
    (hd : d ∈ ds) (hd' : d' ∈ ds) (hne : d.resource.name ≠ d'.resource.name) :
    (signaturesOf b d).Disjoint (signaturesOf b d') := by
  intro signature hmem hmem'
  -- a function in both lists belongs to resources with the same types, so that names decide
  have htypes : parameterTypes d = parameterTypes d' :=
    (filter_isPlainType hmem).symm.trans (filter_isPlainType hmem')
  rcases name_of_mem_signaturesOf hmem with heq | ⟨hclass, hname⟩
  · rcases name_of_mem_signaturesOf hmem' with heq' | ⟨hclass', hname'⟩
    · exact hne (congrArg Prod.fst (heq.symm.trans heq'))
    · rw [heq] at hname'
      exact h (.accessor hd hd' hclass' hname' htypes)
  · rcases name_of_mem_signaturesOf hmem' with heq' | ⟨hclass', hname'⟩
    · rw [heq'] at hname
      exact h (.accessor hd' hd hclass hname htypes.symm)
    · have hstem : d.stem = d'.stem := List.append_cancel_left (hname.symm.trans hname')
      exact h (.factories hd hd' hne hclass hclass' hstem htypes)

theorem constructor_not_mem (b : Bundle) (d : Description) (className : Text) :
    (className, ["Locale".toList]) ∉ signaturesOf b d := by
  intro hmem
  have hplain : ["Locale".toList] ≠ parameterTypes d := by
    intro htypes
    have hlocale := isPlainType_of_mem (htypes ▸ List.mem_cons_self)
    revert hlocale
    decide
  rcases mem_signaturesOf hmem with heq | ⟨exception, -, heq | heq⟩
  · exact hplain (congrArg Prod.snd heq)
  · exact hplain (congrArg Prod.snd heq)
  · have hlast := congrArg List.getLast? (congrArg Prod.snd heq)
    rw [List.getLast?_append] at hlast
    have hpointer : "Locale".toList = "const " ++ exception ++ " * const" := Option.some.inj hlast
    cases congrArg List.head? hpointer

/-- The functions of the class differ from those of a resource, unless this has the name of one and
takes the same types. -/
theorem ownSignatures_disjoint {ds : List Description} (h : ¬ Clash b ds) {d : Description}
    (hd : d ∈ ds) (hname : '~' ∉ d.resource.name) (className : Text) :
    (ownSignatures className).Disjoint (signaturesOf b d) := by
  intro signature hown hmem
  rcases List.mem_cons.mp hown with rfl | hown
  · exact constructor_not_mem b d className hmem
  -- no other function of the class is named like a factory
  have hletter : ∀ own ∈ (ownSignatures className).tail, own.1.head? ≠ some 'n' := by
    simp [ownSignatures]
  rcases name_of_mem_signaturesOf hmem with heq | ⟨-, hfactory⟩
  · obtain ⟨hname', htypes⟩ : signature.1 = d.resource.name ∧ signature.2 = parameterTypes d :=
      Prod.mk.inj heq
    have hplain : ∀ type ∈ signature.2, isPlainType type = true := by
      rw [htypes]
      exact fun type htype => isPlainType_of_mem htype
    simp only [List.mem_cons, List.not_mem_nil, or_false] at hown
    rcases hown with rfl | rfl | rfl | rfl | rfl
    · rw [← hname'] at hname
      exact hname List.mem_cons_self
    · exact h (.instances hd hname'.symm htypes.symm)
    · exact absurd (hplain _ List.mem_cons_self) (by decide)
    · exact h (.location hd hname'.symm htypes.symm)
    · exact absurd (hplain _ List.mem_cons_self) (by decide)
  · refine hletter signature hown ?_
    rw [hfactory]
    rfl

theorem ownSignatures_nodup (className : Text) : (ownSignatures className).Nodup := by
  simp [ownSignatures]

/-- The functions of a class are told apart by their names and the types that they take exactly if
no two of them clash. -/
theorem signatures_nodup_iff {ds : List Description}
    (hdistinct : (ds.map (·.resource.name)).Nodup) (hnames : ∀ d ∈ ds, '~' ∉ d.resource.name)
    (className : Text) :
    (ownSignatures className ++ ds.flatMap (signaturesOf b)).Nodup ↔ ¬ Clash b ds := by
  rw [List.nodup_append', List.nodup_flatMap]
  constructor
  · rintro ⟨-, ⟨hsingle, hpairs⟩, hown⟩ hclash
    have hown {d : Description} (hd : d ∈ ds) {signature : Text × List Text}
        (hmem : signature ∈ signaturesOf b d) : signature ∉ ownSignatures className :=
      fun hmem' => hown hmem' (List.mem_flatMap.mpr ⟨d, hd, hmem⟩)
    have hpairs {d d' : Description} (hd : d ∈ ds) (hd' : d' ∈ ds) (hne : d ≠ d')
        {signature : Text × List Text} (hmem : signature ∈ signaturesOf b d) :
        signature ∉ signaturesOf b d' := by
      have : Std.Symm (Function.onFun List.Disjoint (signaturesOf b)) :=
        ⟨fun _ _ hdisjoint _ hmem hmem' => hdisjoint hmem' hmem⟩
      exact hpairs.forall hd hd' hne hmem
    -- a clash puts one signature into two of the lists, or into one list twice
    cases hclash with
    | @instances d hd hname htypes =>
        refine hown hd (accessor_mem_signaturesOf b d) ?_
        rw [hname, htypes]
        exact List.mem_cons_of_mem _ (List.mem_cons_of_mem _ List.mem_cons_self)
    | @location d hd hname htypes =>
        refine hown hd (accessor_mem_signaturesOf b d) ?_
        rw [hname, htypes]
        exact List.mem_append_right (ownSignatures className).dropLast.dropLast List.mem_cons_self
    | @factories d d' hd hd' hne hclass hclass' hstem htypes =>
        refine hpairs hd hd' (fun heq => hne (by rw [heq])) (factory_mem_signaturesOf hclass) ?_
        rw [hstem, htypes]
        exact factory_mem_signaturesOf hclass'
    | @accessor d d' hd hd' hclass hname htypes =>
        have hfactory := factory_mem_tail hclass
        rw [← hname, ← htypes] at hfactory
        by_cases heq : d = d'
        · subst heq
          exact (List.nodup_cons.mp (hsingle d hd)).1 hfactory
        · exact hpairs hd hd' heq (accessor_mem_signaturesOf b d) (List.mem_of_mem_tail hfactory)
  · intro hclash
    refine ⟨ownSignatures_nodup className,
      ⟨fun d hd => signaturesOf_nodup fun hclass hname => ?_, ?_⟩, ?_⟩
    · exact hclash (.accessor hd hd hclass hname rfl)
    · have hne : ds.Pairwise fun d d' => d.resource.name ≠ d'.resource.name :=
        List.pairwise_map.mp hdistinct
      exact hne.imp_of_mem fun hd hd' hne => signaturesOf_disjoint hclash hd hd' hne
    · intro signature hown hmem
      obtain ⟨d, hd, hmem⟩ := List.mem_flatMap.mp hmem
      exact ownSignatures_disjoint hclash hd (hnames d hd) className hown hmem

theorem signatures_eq {cls : Class} (h : ∀ m ∈ cls.members, m.IsOf b) :
    cls.signatures = ownSignatures cls.className ++
      (cls.members.map Member.described).flatMap (signaturesOf b) := by
  have hmembers : cls.members.flatMap (fun m => m.declarations.map Function.signature) =
      cls.members.flatMap (fun m => signaturesOf b m.described) := by
    refine List.flatMap_congr fun m hm => ?_
    rw [(h m hm).declarations_eq, List.map_map]
    rfl
  rw [Class.signatures, List.map_flatMap, hmembers, List.flatMap_map]

end Native

section Bundles

/-- In the class of a bundle that has been read, the members in direct style are told apart exactly
if the stems are, and the functions of the native class exactly if none clash. -/
theorem members_nodup_iff {source : Text} {bytes : Bytes} {b : Bundle}
    (hload : Bundle.ofBytes source bytes = .ok b) (hnames : ∀ r ∈ b.resources, '~' ∉ r.name) :
    (∀ className header baseClass c text,
      (outcome (Managed.render .direct b className header baseClass) c).1 = .ok text →
      ∃ cls, (outcome (Managed.classOf .direct b className header baseClass) c).1 = .ok cls ∧
        text = cls.text ∧
        ((cls.body.fields.Nodup ∧
          ((cls.body.methods (ClassName.simple className)).map Managed.Method.signature).Nodup) ↔
          (b.resources.map Resource.stem).Nodup)) ∧
    ∀ className header baseClass c text,
      (outcome (Native.renderHeader b className header baseClass) c).1 = .ok text →
      ∃ cls ds, (outcome (Native.classOf b className header baseClass) c).1 = .ok cls ∧
        text = cls.headerText (Native.exceptionIncludes b) ∧
        List.Forall₂ (fun r d => r.describe header.source = .ok d) b.resources ds ∧
        (cls.signatures.Nodup ↔ ¬ Native.Clash b ds) := by
  refine ⟨fun className header baseClass c text h => ?_,
    fun className header baseClass c text h => ?_⟩
  · obtain ⟨cls, x, hclass, htext⟩ := outcome_bind_eq_ok.mp (outcome_of_fst h)
    cases htext
    refine ⟨cls, congrArg Prod.fst hclass, rfl, ?_⟩
    obtain ⟨ds, hdescribes, hbody⟩ := Managed.classOf_eq_ok (congrArg Prod.fst hclass)
    have hstems : b.resources.map Resource.stem = ds.map Description.stem := by
      rw [← map_resource_of_describe hdescribes, List.map_map]
      rfl
    rw [hstems]
    generalize cls.body = body at hbody
    cases hbody
    exact Managed.direct_nodup_iff c b ds _
  · obtain ⟨cls, x, hclass, htext⟩ := outcome_bind_eq_ok.mp (outcome_of_fst h)
    cases htext
    rcases Native.classOf_cases b className header baseClass with ⟨e, hrefused⟩ |
      ⟨members, hbuilt, hof, hdescribes⟩
    · have hrefused := (hrefused c).symm.trans (congrArg Prod.fst hclass)
      cases hrefused
    · cases (hbuilt c).symm.trans (congrArg Prod.fst hclass)
      refine ⟨_, _, hbuilt c, rfl, hdescribes, ?_⟩
      have hresources := map_resource_of_describe hdescribes
      rw [Native.signatures_eq hof]
      refine Native.signatures_nodup_iff ?_ ?_ className
      · have hdistinct := Bundle.nodup_names_of_ofBytes hload
        rwa [← hresources, List.map_map] at hdistinct
      · intro d hd
        refine hnames d.resource ?_
        rw [← hresources]
        exact List.mem_map_of_mem hd

end Bundles

section Instances

/-- A bundle of messages with empty texts. -/
def messages (names : List Text) : Bundle :=
  ⟨none, names.map fun name => ⟨name, .message, some [], [], none, none⟩,
    ⟨none, none, none, none, none, none, []⟩⟩

/-- The document of that bundle. -/
def messagesDocument (names : List Text) : Bytes :=
  Text.utf8 ("<resourceBundle>".toList
    ++ names.flatMap (fun name =>
      "<message name=\"".toList ++ name ++ "\"><text/></message>".toList)
    ++ "</resourceBundle>".toList)

/-- The header of files that are generated from `t.xml`. -/
def plainHeader : Header :=
  ⟨.ofText "t.xml", true, []⟩

/-- The members of two messages are kept apart by the underscore in front of a stem in capitals. -/
theorem messages_nodup :
    (∃ cls, (outcome (Managed.classOf .direct (messages ["a", "A"]) "N" plainHeader none)
        (.start .standard)).1 = .ok cls ∧
      cls.body.fields.Nodup ∧ ((cls.body.methods "N").map Managed.Method.signature).Nodup) ∧
    ∃ cls ds, (outcome (Native.classOf (messages ["a", "A"]) "N" plainHeader "ResourceBundle")
        (.start .standard)).1 = .ok cls ∧
      cls.signatures.Nodup ∧ ¬ Native.Clash (messages ["a", "A"]) ds := by
  have hload : Bundle.ofBytes "t.xml" (messagesDocument ["a", "A"]) =
      .ok (messages ["a", "A"]) := by decide +kernel
  obtain ⟨hmanaged, hnative⟩ := members_nodup_iff hload (by decide)
  obtain ⟨cls, hclass, -, hnodup⟩ := hmanaged "N" plainHeader none (.start .standard) _ rfl
  obtain ⟨cls', ds, hclass', -, -, hclash⟩ :=
    hnative "N" plainHeader "ResourceBundle" (.start .standard) _ rfl
  have hsignatures : ∃ cls, (outcome (Native.classOf (messages ["a", "A"]) "N" plainHeader
      "ResourceBundle") (.start .standard)).1 = .ok cls ∧ cls.signatures.Nodup :=
    ⟨_, rfl, by decide +kernel⟩
  obtain ⟨built, hbuilt, hdiffer⟩ := hsignatures
  obtain rfl : cls' = built := Except.ok.inj (hclass'.symm.trans hbuilt)
  exact ⟨⟨cls, hclass, hnodup.mpr (by decide +kernel)⟩, cls', ds, hclass', hdiffer,
    hclash.mp hdiffer⟩

/-- Two messages whose names differ in the case of the first letter are read and rendered, although
they have the same stem and one of them has the name of a function of the class. -/
theorem messages_collide :
    Bundle.ofBytes "t.xml" (messagesDocument ["instance", "Instance"]) =
        .ok (messages ["instance", "Instance"]) ∧
      (∃ cls, (outcome (Managed.classOf .direct (messages ["instance", "Instance"]) "N" plainHeader
          none) (.start .standard)).1 = .ok cls ∧
        ¬ cls.body.fields.Nodup ∧
        ¬ ((cls.body.methods "N").map Managed.Method.signature).Nodup) ∧
      ∃ cls, (outcome (Native.classOf (messages ["instance", "Instance"]) "N" plainHeader
          "ResourceBundle") (.start .standard)).1 = .ok cls ∧
        ¬ cls.signatures.Nodup := by
  refine ⟨by decide +kernel, ⟨_, rfl, ?_, ?_⟩, _, rfl, ?_⟩
  · decide +kernel
  · decide +kernel
  · decide +kernel

end Instances

end MessageCatalog
