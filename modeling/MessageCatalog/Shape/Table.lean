import MessageCatalog.Shape.Basic

/-!
# Tables of constructor shapes

A table maps class names to shapes. Some exception classes of the managed runtime are always known;
given entries come before them. A class that is not found is looked up once more in the package
whose classes need no import.
-/

namespace MessageCatalog

/-- A table of shapes by class name; of two entries for a class the first one counts. -/
structure ShapeTable where
  entries : List (Text × ConstructorShape)
deriving DecidableEq, Repr

namespace ShapeTable

/-- The package whose classes may be named without it. -/
def implicitPackage : Text := "java.lang."

/-- The classes that take a message, with or without a cause. -/
def withCause : ConstructorShape := .ofForms [.message, .messageCause]

/-- The classes that take a message only. -/
def messageOnly : ConstructorShape := .ofForms [.message]

/-- The classes that take a message and always a cause. -/
def causeOnly : ConstructorShape := .ofForms [.messageCause]

/-- The classes that are always known. -/
def known : List (Text × ConstructorShape) :=
  [("java.lang.Throwable", withCause),
    ("java.lang.Exception", withCause),
    ("java.lang.RuntimeException", withCause),
    ("java.lang.Error", withCause),
    ("java.lang.IllegalArgumentException", withCause),
    ("java.lang.IllegalStateException", withCause),
    ("java.lang.UnsupportedOperationException", withCause),
    ("java.lang.SecurityException", withCause),
    ("java.lang.NullPointerException", messageOnly),
    ("java.lang.ArithmeticException", messageOnly),
    ("java.lang.IndexOutOfBoundsException", messageOnly),
    ("java.lang.ClassCastException", messageOnly),
    ("java.lang.AssertionError", causeOnly),
    ("java.io.IOException", withCause),
    ("java.io.UncheckedIOException", causeOnly),
    ("java.sql.SQLException", withCause)]

/-- The table of the known classes only. -/
def standard : ShapeTable := ⟨known⟩

/-- The table of the given classes and the known ones. -/
def ofTokens (given : List (Text × List Text)) : Except ShapeError ShapeTable := do
  let entries ← given.mapM fun (className, tokens) => do
    return (className, ← ConstructorShape.ofTokens tokens)
  return ⟨entries ++ known⟩

/-- The shape of a class, under its own name or in the implicit package. -/
def lookup (table : ShapeTable) (className : Text) : Option ConstructorShape :=
  match table.entries.lookup className with
  | some shape => some shape
  | none =>
      if className.startsWith implicitPackage then none
      else table.entries.lookup (implicitPackage ++ className)

end ShapeTable

end MessageCatalog
