import MessageCatalog.Log.Record

/-!
# The hierarchy of loggers

A logger stands below the nearest logger whose name is its own up to a dot. Names are read from their
end, and behind a dot the character in front of it is passed over, so that a name with an empty part
can miss the loggers above it. Only the records of loggers below the root of the tool reach its
console and its collectors.
-/

namespace MessageCatalog

/-- The logger with the reversed name stands below the root of the tool, among the loggers that are
known. -/
def climbsToTool (known : List Text) : Text → Bool
  | [] => false
  | [_] => false
  | c :: d :: rest =>
      if c ≠ '.' then climbsToTool known (d :: rest)
      else if (d :: rest).reverse = toolName then true
      else if (d :: rest).reverse ∈ known then climbsToTool known (d :: rest)
      else climbsToTool known rest

/-- The logger is the root of the tool or stands below it, among the loggers that are known. -/
def belongsToTool (known : List Text) (logger : Text) : Bool :=
  logger = toolName || climbsToTool known logger.reverse

end MessageCatalog
