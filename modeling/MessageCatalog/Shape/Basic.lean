import MessageCatalog.Text.Blank

/-!
# Constructor shapes

An exception class can be built by generated code through four forms of constructor: from a message
or from a resource instance, each with or without a cause. The shape of a class says which of them
it has. Shapes are written as lists of tokens, and the order and repetition of tokens do not matter.
-/

namespace MessageCatalog

/-- A form of constructor that generated code can call. -/
inductive ConstructorForm where
  | message
  | messageCause
  | object
  | objectCause
deriving DecidableEq, Repr

namespace ConstructorForm

/-- All forms, in the order in which they are listed. -/
def all : List ConstructorForm :=
  [.message, .messageCause, .object, .objectCause]

/-- The token of a form. -/
def token : ConstructorForm → Text
  | .message => "message"
  | .messageCause => "message_cause"
  | .object => "instance"
  | .objectCause => "instance_cause"

/-- A written token as it is compared: stripped, in lower case, with underscores for `+` and `-`. -/
def normalizedToken (t : Text) : Text :=
  ((Text.asciiLowercase t.strip).replaceChar '+' '_').replaceChar '-' '_'

/-- The form that a written token names. -/
def ofToken? (t : Text) : Option ConstructorForm :=
  all.find? fun form => form.token == normalizedToken t

end ConstructorForm

/-- The forms of constructor that an exception class has. -/
structure ConstructorShape where
  message : Bool
  messageCause : Bool
  object : Bool
  objectCause : Bool
deriving DecidableEq, Repr

/-- A token names no form of constructor. -/
structure ShapeError where
  token : Text
deriving DecidableEq, Repr

/-- The wording of an unknown token. -/
def ShapeError.text (e : ShapeError) : Text :=
  "Unknown constructor shape '" ++ e.token ++ "'; expected one of "
    ++ Text.join ", " (ConstructorForm.all.map ConstructorForm.token)

namespace ConstructorShape

/-- The shape without constructors. -/
def empty : ConstructorShape :=
  ⟨false, false, false, false⟩

/-- The shape has the form. -/
def has (s : ConstructorShape) : ConstructorForm → Bool
  | .message => s.message
  | .messageCause => s.messageCause
  | .object => s.object
  | .objectCause => s.objectCause

/-- The shape with one more form. -/
def add (s : ConstructorShape) : ConstructorForm → ConstructorShape
  | .message => { s with message := true }
  | .messageCause => { s with messageCause := true }
  | .object => { s with object := true }
  | .objectCause => { s with objectCause := true }

/-- The shape with exactly the listed forms. -/
def ofForms (forms : List ConstructorForm) : ConstructorShape :=
  forms.foldl add empty

/-- The shape of a list of tokens; the first token without a form is reported. -/
def ofTokens (tokens : List Text) : Except ShapeError ConstructorShape :=
  tokens.foldlM
    (fun shape token =>
      match ConstructorForm.ofToken? token with
      | some form => .ok (shape.add form)
      | none => .error ⟨token⟩)
    empty

/-- The tokens of a shape, in the order of the forms. -/
def tokens (s : ConstructorShape) : List Text :=
  (ConstructorForm.all.filter s.has).map ConstructorForm.token

/-- The shape has no constructor at all. -/
def isEmpty (s : ConstructorShape) : Bool :=
  !(s.message || s.messageCause || s.object || s.objectCause)

/-- Some constructor takes a cause. -/
def acceptsCause (s : ConstructorShape) : Bool :=
  s.messageCause || s.objectCause

theorem has_add (s : ConstructorShape) (f g : ConstructorForm) :
    (s.add f).has g = (decide (f = g) || s.has g) := by
  cases f <;> cases g <;> rfl

end ConstructorShape

end MessageCatalog
