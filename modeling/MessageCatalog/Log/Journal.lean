import MessageCatalog.Log.Hierarchy

/-!
# The journal

The state of logging: the verbosity that the last configuration set, the handlers of the root of the
tool in the order in which they were added, and the loggers that have been asked for. A handler is a
console or a warning collector. Configuring replaces the consoles and leaves the collectors alone, and
a collector takes itself away when it is closed.
-/

namespace MessageCatalog

/-- Which records the console shows. -/
inductive Verbosity where
  | normal
  | verbose
deriving DecidableEq, Repr

/-- The least level that is shown. -/
def Verbosity.threshold : Verbosity → LogLevel
  | .normal => .info
  | .verbose => .debug

/-- What the records of the tool are handed to. -/
inductive Handler where
  /-- Writes records to the console. -/
  | console (verbosity : Verbosity)
  /-- Keeps the messages of warnings. -/
  | collector (messages : List Text)
deriving DecidableEq, Repr

namespace Handler

/-- The handler is a warning collector. -/
def isCollector : Handler → Bool
  | console _ => false
  | collector _ => true

/-- The messages that a collector keeps. -/
def messages? : Handler → Option (List Text)
  | console _ => none
  | collector messages => some messages

/-- The lines that the handler writes for a record. -/
def lines (r : LogRecord) : Handler → List Text
  | console verbosity => if r.level.reaches verbosity.threshold then [r.consoleLine] else []
  | collector _ => []

/-- The handler behind a record. A collector keeps warnings, neither what is above them nor what is
below. -/
def taking (r : LogRecord) : Handler → Handler
  | console verbosity => console verbosity
  | collector messages =>
      if r.level = .warning then collector (messages ++ [r.message]) else collector messages

/-- The messages of the collector that was added last, and the handlers without it. -/
def takeLastCollector : List Handler → Option (List Text × List Handler)
  | [] => none
  | h :: rest =>
      match takeLastCollector rest with
      | some (messages, rest) => some (messages, h :: rest)
      | none => h.messages?.map fun messages => (messages, rest)

end Handler

/-- The state of logging. -/
structure Journal where
  /-- The verbosity that the last configuration has set, if there was one. -/
  verbosity : Option Verbosity
  /-- The handlers of the root of the tool, the one that was added last at the end. -/
  handlers : List Handler
  /-- The names of the loggers that have been asked for. -/
  loggers : List Text
deriving DecidableEq, Repr

namespace Journal

/-- Logging before any configuration. -/
def initial : Journal := ⟨none, [], []⟩

/-- The least level of the records that are passed on to the handlers. -/
def threshold (j : Journal) : LogLevel :=
  match j.verbosity with
  | some verbosity => verbosity.threshold
  | none => .warning

/-- Replaces the console. -/
def configure (j : Journal) (verbosity : Verbosity) : Journal :=
  { j with
    verbosity := some verbosity
    handlers := j.handlers.filter Handler.isCollector ++ [.console verbosity] }

/-- Opens a collector inside the open ones. -/
def collect (j : Journal) : Journal :=
  { j with handlers := j.handlers ++ [.collector []] }

/-- Closes the innermost collector and hands out its messages. -/
def release (j : Journal) : List Text × Journal :=
  match Handler.takeLastCollector j.handlers with
  | none => ([], j)
  | some (messages, handlers) => (messages, { j with handlers })

/-- A record is passed on to the handlers of the tool. -/
def passesOn (j : Journal) (r : LogRecord) : Bool :=
  belongsToTool j.loggers r.logger && r.level.reaches j.threshold

/-- The lines that a record writes to the console. A record that no handler is there for is written
bare if it is at least a warning. -/
def shown (j : Journal) (r : LogRecord) : List Text :=
  if belongsToTool j.loggers r.logger && !j.handlers.isEmpty then
    if j.passesOn r then j.handlers.flatMap (Handler.lines r) else []
  else if r.level.reaches .warning then [r.message] else []

/-- Hands a record to the handlers. -/
def record (j : Journal) (r : LogRecord) : Journal :=
  { j with
    loggers := r.logger :: j.loggers
    handlers := if j.passesOn r then j.handlers.map (Handler.taking r) else j.handlers }

end Journal

end MessageCatalog
