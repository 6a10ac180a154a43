import MessageCatalog.Shape.Basic

/-!
# Exception factories

Generated code creates the exception of a resource through factories. Which ones a class gets
follows from the shape of its constructors: a plain factory, which prefers the constructor that takes
a resource instance, and one that takes a cause, if the class accepts causes and the resource allows
them.
-/

namespace MessageCatalog

/-- What a factory hands to the constructor first. -/
inductive FactoryArgument where
  /-- The resource instance. -/
  | object
  /-- The formatted message. -/
  | message
deriving DecidableEq, Repr

/-- What a factory hands to the constructor as the cause. -/
inductive FactoryCause where
  /-- No cause, to a constructor that demands one. -/
  | null
  /-- The cause that the factory was given. -/
  | given
deriving DecidableEq, Repr

/-- A factory to generate. -/
structure FactoryPlan where
  argument : FactoryArgument
  cause : Option FactoryCause
deriving DecidableEq, Repr

namespace FactoryPlan

/-- The word for what is handed over first. -/
def argumentName (plan : FactoryPlan) : Text :=
  match plan.argument with
  | .object => "instance"
  | .message => "message"

/-- The expression for the cause, if one is handed over. -/
def causeText (plan : FactoryPlan) : Option Text :=
  plan.cause.map fun cause =>
    match cause with
    | .null => "null"
    | .given => "err"

/-- The factory has a parameter for the cause. -/
def takesCause (plan : FactoryPlan) : Bool :=
  plan.cause == some .given

/-- The factory without a cause: the instance form first, and of each form the one without a cause
first. -/
def plain (shape : ConstructorShape) : List FactoryPlan :=
  if shape.object then [⟨.object, none⟩]
  else if shape.objectCause then [⟨.object, some .null⟩]
  else if shape.message then [⟨.message, none⟩]
  else if shape.messageCause then [⟨.message, some .null⟩]
  else []

/-- The factory with a cause: the instance form first. -/
def withCause (shape : ConstructorShape) : List FactoryPlan :=
  if shape.objectCause then [⟨.object, some .given⟩]
  else if shape.messageCause then [⟨.message, some .given⟩]
  else []

/-- The factories for an exception class, none if its shape is unknown. -/
def forShape (shape : Option ConstructorShape) (causeAllowed : Bool) : List FactoryPlan :=
  match shape with
  | none => []
  | some shape => plain shape ++ if causeAllowed then withCause shape else []

end FactoryPlan

end MessageCatalog
