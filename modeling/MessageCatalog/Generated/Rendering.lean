import MessageCatalog.Context
import MessageCatalog.Generated.Error

/-!
# Rendering

Rendering reads and extends the context of a run, and it may be refused. What happened to the context
before a refusal stays: warnings that were logged remain logged.
-/

namespace MessageCatalog

/-- A computation that reads and extends the context and may be refused. -/
abbrev Rendering (α : Type) : Type :=
  ExceptT RenderError (StateM Context) α

namespace Rendering

/-- A result or a refusal that does not depend on the context. -/
def ofExcept {α : Type} (e : Except RenderError α) : Rendering α :=
  ExceptT.mk (pure e)

/-- Logs a record. -/
def log (r : LogRecord) : Rendering Unit :=
  modify (·.record r)

/-- Logs a warning. -/
def warn (message : Text) : Rendering Unit :=
  modify (·.warn message)

/-- The shape of an exception class, as the context resolves it. -/
def shapeOf (className : Text) (hints : List Text) : Rendering (Option ConstructorShape) :=
  modifyGet (·.resolve className hints)

end Rendering

end MessageCatalog
