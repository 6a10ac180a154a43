import MessageCatalog.Log.Record
import MessageCatalog.Shape.Hint
import MessageCatalog.Shape.Table

/-!
# Generation contexts

What the includes of one run share: the shape table, the answers it has given, the classes whose
absence has been reported, and the log. The table is consulted once per class; a class that neither
the table nor the hints of a bundle know is reported once.
-/

namespace MessageCatalog

/-- The state shared by the includes of one run. -/
structure Context where
  table : ShapeTable
  /-- The answers of the table, in the order in which it was consulted. -/
  consulted : List (Text × Option ConstructorShape)
  /-- The classes that have been reported missing. -/
  reported : List Text
  /-- All records, in order. -/
  log : List LogRecord
deriving DecidableEq, Repr

namespace Context

/-- The context at the start of a run. -/
def start (table : ShapeTable) : Context :=
  ⟨table, [], [], []⟩

/-- Appends a record to the log. -/
def record (c : Context) (r : LogRecord) : Context :=
  { c with log := c.log ++ [r] }

/-- Logs a warning. -/
def warn (c : Context) (message : Text) : Context :=
  c.record (.of .warning "context" message)

/-- The warning about a class that nothing describes. -/
def missingClass (className : Text) : Text :=
  "Could not find exception class '" ++ className
    ++ "'. Exception factory methods will not be generated."

/-- The table's answer for a class, asked for only the first time. -/
def consult (c : Context) (className : Text) : Option ConstructorShape × Context :=
  match c.consulted.lookup className with
  | some answer => (answer, c)
  | none =>
      let answer := c.table.lookup className
      (answer, { c with consulted := c.consulted ++ [(className, answer)] })

/-- Reports a missing class, unless it has been reported before. -/
def reportMissing (c : Context) (className : Text) : Context :=
  if className ∈ c.reported then c
  else { c with reported := c.reported ++ [className] }.warn (missingClass className)

/-- The shape of a class: the table's answer, else the one the hints give, else none. -/
def resolve (c : Context) (className : Text) (hints : List Text) :
    Option ConstructorShape × Context :=
  match c.consult className with
  | (some shape, c) => (some shape, c)
  | (none, c) =>
      let hinted := ConstructorShape.ofHints hints
      if hinted.isEmpty then (none, c.reportMissing className) else (some hinted, c)

end Context

end MessageCatalog
