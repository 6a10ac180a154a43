import MessageCatalog.ClassName
import MessageCatalog.Generated.Description
import MessageCatalog.Generated.Factory
import MessageCatalog.Generated.Header
import MessageCatalog.Generated.Rendering

/-!
# Accessor classes of the managed runtime

An accessor class gives each resource of a bundle its members. In direct style every resource has
its own methods. In functor style resources share definition classes: two resources have the same
definition when their parameters, their exception class and their policy on causes agree. Classes
are built as data here; their text is made elsewhere.
-/

namespace MessageCatalog

/-- How the members of an accessor class are laid out. -/
inductive AccessorStyle where
  | direct
  | functor
deriving DecidableEq, Repr

/-- The name of a style. -/
def AccessorStyle.name : AccessorStyle → Text
  | .direct => "direct"
  | .functor => "functor"

/-- The style of the given name. -/
def AccessorStyle.ofName? (name : Text) : Option AccessorStyle :=
  [direct, functor].find? (·.name == name)

namespace Managed

/-- The type names of the managed runtime. -/
def types : TypeTable where
  string := "String"
  number := "Number"
  date := "java.util.Date"
  time := "java.util.Date"

/-- The package of the runtime library that generated classes use. -/
def runtimePackage : Text := "org.eigenbase.resgen"

/-- The class of the objects that stand for resources. -/
def definitionClass : Text := runtimePackage ++ ".ResourceDefinition"

/-- The base class of accessor classes, unless another one is given. -/
def defaultBaseClass : Text := runtimePackage ++ ".ShadowResourceBundle"

/-- The class of exceptions that nothing gives a class. -/
def defaultErrorClass : Text := "java.lang.RuntimeException"

/-- The class of the exceptions of a resource: its own, that of the bundle, or the default. -/
def errorClass (r : Resource) (b : Bundle) : Option Text :=
  if r.isException then
    some
      (((Text.present? (r.exception.bind (·.className))).or
        (Text.present? b.options.exceptionClassName)).getD defaultErrorClass)
  else none

/-- The factories of a resource may take a cause. -/
def allowsCause (r : Resource) : Bool :=
  match r.exception with
  | none => true
  | some details => details.chained != some false

/-- The array of the arguments of a call. -/
def argumentArray (s : Signature) : Text :=
  if s.arguments.isEmpty then "emptyObjectArray"
  else "new Object[] \x7b" ++ Text.join ", " s.arguments ++ "\x7d"

/-- The array of the names and values of the properties of a resource. -/
def propertyArray (r : Resource) : Text :=
  if r.properties.isEmpty then "null"
  else
    "new String[] \x7b"
      ++ Text.join ", " (r.properties.flatMap fun p => [p.name.literal, p.value.literal])
      ++ "\x7d"

/-- A public method that returns the value of one expression. -/
structure Method where
  result : Text
  name : Text
  parameters : List Parameter
  value : Text
deriving DecidableEq, Repr

/-- The parameters of a factory: those of the resource, then the cause if the factory takes one. -/
def factoryParameters (plan : FactoryPlan) (parameters : List Parameter) : List Parameter :=
  parameters ++ if plan.takesCause then [⟨"Throwable", "err"⟩] else []

/-- The method of a factory. The constructor gets the instance or the message, then the cause. -/
def factoryMethod (plan : FactoryPlan) (name errorClass : Text) (parameters : List Parameter)
    (object message : Text) : Method where
  result := errorClass
  name := name
  parameters := factoryParameters plan parameters
  value :=
    let first :=
      match plan.argument with
      | .object => object
      | .message => message
    "new " ++ errorClass ++ "(" ++ Text.join ", " (first :: plan.causeText.toList) ++ ")"

/-- The members of a resource in direct style. -/
structure Accessor where
  described : Description
  errorClass : Option Text
  factories : List FactoryPlan
deriving DecidableEq, Repr

namespace Accessor

/-- The parameters of the accessor method. -/
def parameters (a : Accessor) : List Parameter :=
  a.described.signature.parameters types

/-- The arguments by which the resource is instantiated. -/
def instantiation (a : Accessor) : Text :=
  "this, " ++ argumentArray a.described.signature

/-- The method that formats the message. -/
def getter (a : Accessor) : Method where
  result := "String"
  name := "get" ++ a.described.stem
  parameters := a.parameters
  value := a.described.stem ++ ".instantiate(" ++ a.instantiation ++ ").toString()"

/-- The methods that create the exception, if the resource is one. -/
def factoryMethods (a : Accessor) : List Method :=
  match a.errorClass with
  | none => []
  | some errorClass =>
      a.factories.map fun plan =>
        factoryMethod plan ("new" ++ a.described.stem) errorClass a.parameters
          (a.described.stem ++ ".instantiate(" ++ a.instantiation ++ ")")
          ("get" ++ a.described.stem ++ "(" ++ a.described.argumentText ++ ")")

/-- All methods of the resource, the accessor first. -/
def methods (a : Accessor) : List Method :=
  a.getter :: a.factoryMethods

end Accessor

/-- What decides which definition class a resource has. -/
structure DefinitionKey where
  parameters : List Parameter
  errorClass : Option Text
  causeAllowed : Bool
deriving DecidableEq, Repr

/-- A definition class of the functor style. -/
structure Definition where
  index : Nat
  key : DefinitionKey
  signature : Signature
  factories : List FactoryPlan
deriving DecidableEq, Repr

namespace Definition

/-- The name of the class. -/
def name (d : Definition) : Text :=
  "_Def" ++ Text.ofNat d.index

/-- The arguments by which a resource is instantiated inside the class. -/
def instantiation (d : Definition) (outer : Text) : Text :=
  outer ++ ".this, " ++ argumentArray d.signature

/-- The expression of the instance. -/
def object (d : Definition) (outer : Text) : Text :=
  "instantiate(" ++ d.instantiation outer ++ ")"

/-- The method that formats the message. -/
def formatter (d : Definition) (outer : Text) : Method where
  result := "String"
  name := "str"
  parameters := d.key.parameters
  value := d.object outer ++ ".toString()"

/-- The methods that create the exception, if the definition has a class for it. -/
def factoryMethods (d : Definition) (outer : Text) : List Method :=
  match d.key.errorClass with
  | none => []
  | some errorClass =>
      d.factories.map fun plan =>
        factoryMethod plan "ex" errorClass d.key.parameters (d.object outer)
          (d.object outer ++ ".toString()")

/-- All methods of the class, the formatter first. -/
def methods (d : Definition) (outer : Text) : List Method :=
  d.formatter outer :: d.factoryMethods outer

end Definition

/-- The member of a resource in functor style: an object of the definition class. -/
structure FunctorMember where
  described : Description
  definition : Text
deriving DecidableEq, Repr

/-- The members of an accessor class. -/
inductive Body where
  | direct (accessors : List Accessor)
  | functor (members : List FunctorMember) (definitions : List Definition)
deriving DecidableEq, Repr

/-- An accessor class. -/
structure Class where
  header : Header
  className : Text
  baseClass : Option Text
  code : Option Text
  body : Body
deriving DecidableEq, Repr

/-- The factories of an exception class, by the shape that the context knows for it. -/
def factoriesFor (b : Bundle) (errorClass : Option Text) (causeAllowed : Bool) :
    Rendering (List FactoryPlan) :=
  match errorClass with
  | none => return []
  | some errorClass => do
      let shape ← Rendering.shapeOf errorClass (b.hintsFor errorClass)
      return FactoryPlan.forShape shape causeAllowed

/-- The members of a resource in direct style. -/
def accessorOf (b : Bundle) (source : Path) (r : Resource) : Rendering Accessor := do
  let described ← Rendering.ofExcept (r.describe source)
  let factories ← factoriesFor b (errorClass r b) (allowsCause r)
  return ⟨described, errorClass r b, factories⟩

/-- The key of the definition class of a resource. -/
def keyOf (b : Bundle) (d : Description) : DefinitionKey :=
  ⟨d.signature.parameters types, errorClass d.resource b, allowsCause d.resource⟩

/-- The definition of a resource: one that exists already, or a new one behind them. -/
def definitionOf (b : Bundle) (described : Description) (definitions : List Definition) :
    Rendering (Definition × List Definition) := do
  let key := keyOf b described
  match definitions.find? (·.key = key) with
  | some definition => return (definition, definitions)
  | none =>
      let factories ← factoriesFor b key.errorClass key.causeAllowed
      let definition := ⟨definitions.length, key, described.signature, factories⟩
      return (definition, definitions ++ [definition])

/-- The members of the resources in functor style, behind those that are already there. -/
def functorBody (b : Bundle) (source : Path) :
    List Resource → List FunctorMember → List Definition → Rendering Body
  | [], members, definitions => return .functor members definitions
  | r :: rest, members, definitions => do
      let described ← Rendering.ofExcept (r.describe source)
      let (definition, definitions) ← definitionOf b described definitions
      functorBody b source rest (members ++ [⟨described, definition.name⟩]) definitions

/-- The members of the resources of a bundle. -/
def bodyOf (style : AccessorStyle) (b : Bundle) (source : Path) : Rendering Body :=
  match style with
  | .direct => return .direct (← b.resources.mapM (accessorOf b source))
  | .functor => functorBody b source b.resources [] []

/-- The accessor class of a bundle. -/
def classOf (style : AccessorStyle) (b : Bundle) (className : Text) (header : Header)
    (baseClass : Option Text) : Rendering Class := do
  Rendering.log
    (.of .debug "emitters.java" ("Rendering " ++ className ++ " in " ++ style.name ++ " style"))
  let body ← bodyOf style b header.source
  return ⟨header, className, baseClass, b.options.code, body⟩

end Managed
end MessageCatalog
