import MessageCatalog.Text.Basic

/-!
# Log records

A record has a level, the name of the logger it came from and a message. Every logger stands below
one common root, whose name is the name of the tool.
-/

namespace MessageCatalog

/-- The name of the tool in generated files and in log lines. -/
def toolName : Text := "resgen"

/-- How serious a record is. -/
inductive LogLevel where
  | debug
  | info
  | warning
  | error
  | critical
deriving DecidableEq, Repr

namespace LogLevel

/-- The levels in increasing order. -/
def rank : LogLevel → Nat
  | .debug => 10
  | .info => 20
  | .warning => 30
  | .error => 40
  | .critical => 50

/-- The name of a level. -/
def name : LogLevel → Text
  | .debug => "DEBUG"
  | .info => "INFO"
  | .warning => "WARNING"
  | .error => "ERROR"
  | .critical => "CRITICAL"

/-- A level is at least as serious as a threshold. -/
def reaches (level threshold : LogLevel) : Bool :=
  threshold.rank ≤ level.rank

end LogLevel

/-- A logged message. -/
structure LogRecord where
  level : LogLevel
  logger : Text
  message : Text
deriving DecidableEq, Repr

/-- The full name of a logger; without a name it is the root of all loggers. -/
def loggerName : Option Text → Text
  | none => toolName
  | some [] => toolName
  | some name => toolName ++ '.' :: name

namespace LogRecord

/-- A record of the logger with the given short name. -/
def of (level : LogLevel) (name message : Text) : LogRecord :=
  ⟨level, loggerName (some name), message⟩

/-- The line that the console shows; progress does not name its level. -/
def consoleLine (r : LogRecord) : Text :=
  let head := '[' :: toolName ++ "] "
  if r.level = .info then head ++ r.message else head ++ r.level.name ++ ' ' :: r.message

/-- The line of a log file behind its time. -/
def fileLine (r : LogRecord) : Text :=
  r.level.name ++ ' ' :: r.logger ++ ": " ++ r.message

/-- The messages at level warning, neither above nor below it. -/
def warnings (records : List LogRecord) : List Text :=
  (records.filter (·.level = .warning)).map (·.message)

end LogRecord

end MessageCatalog
