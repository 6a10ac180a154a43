import MessageCatalog.Context
import MessageCatalog.FileTree.Update
import MessageCatalog.Generated.Rendering
import MessageCatalog.Generation.Failure
import MessageCatalog.Timestamp

/-!
# The state of a run

A run changes a file tree, extends the context and the log, reads the clock, and keeps account of
what became of each output, in the order in which it came to them. Its actions may fail; what
happened before a failure stays.
-/

namespace MessageCatalog

/-- What the clock shows: to the program, and to the disk that dates files, as their times are read
afterwards. -/
structure Reading where
  wall : Time
  disk : Time
deriving DecidableEq, Repr

/-- A clock: what it shows each time it is read. -/
abbrev Clock : Type := Nat → Reading

/-- What became of an output. -/
inductive RunEvent where
  | written (output : Path) (time : Time)
  /-- The output was left alone, and why. -/
  | skipped (output : Path) (reason : Text)
deriving DecidableEq, Repr

namespace RunEvent

/-- The output that an event concerns. -/
def output : RunEvent → Path
  | .written output _ => output
  | .skipped output _ => output

/-- The output, if it was written. -/
def written? : RunEvent → Option Path
  | .written output _ => some output
  | .skipped .. => none

/-- The output and the reason, if it was left alone. -/
def skipped? : RunEvent → Option (Path × Text)
  | .written .. => none
  | .skipped output reason => some (output, reason)

end RunEvent

/-- The state of a run. -/
structure RunState where
  tree : FileTree
  context : Context
  clock : Clock
  /-- How often the clock has been read. -/
  ticks : Nat
  /-- What became of the outputs, in order. -/
  events : List RunEvent

namespace RunState

/-- The files that were written, in order. -/
def written (s : RunState) : List Path :=
  s.events.filterMap RunEvent.written?

/-- The files that were left alone and why, in order. -/
def skipped (s : RunState) : List (Path × Text) :=
  s.events.filterMap RunEvent.skipped?

end RunState

/-- An action of a run. -/
abbrev Action (α : Type) : Type :=
  ExceptT Failure (StateM RunState) α

namespace Action

/-- A result or a failure that does not depend on the state. -/
def ofExcept {α : Type} (e : Except Failure α) : Action α :=
  ExceptT.mk (pure e)

/-- The answer of the file tree to a question. -/
def ask {α : Type} (question : FileTree → Except FileError α) : Action α := do
  ofExcept ((question (← get).tree).mapError .file)

/-- Changes the file tree. -/
def change (action : FileAction Unit) : Action Unit := do
  let state ← get
  let (result, tree) := action.run.run state.tree
  set { state with tree }
  ofExcept (result.mapError .file)

/-- Renders in the context of the run. -/
def render (rendering : Rendering Text) : Action Text := do
  let state ← get
  let (result, context) := rendering.run.run state.context
  set { state with context }
  ofExcept (result.mapError .ofRendering)

/-- Logs a message of the run itself. -/
def log (level : LogLevel) (message : Text) : Action Unit :=
  modify fun state =>
    { state with context := state.context.record (.of level "orchestrator" message) }

/-- Reads the clock. -/
def readClock : Action Reading :=
  modifyGet fun state => (state.clock state.ticks, { state with ticks := state.ticks + 1 })

/-- Leaves an output alone. -/
def skip (output : Path) (reason : Text) : Action Unit := do
  log .info reason
  modify fun state => { state with events := state.events ++ [.skipped output reason] }

/-- Writes an output. -/
def write (output : Path) (content : Bytes) : Action Unit := do
  log .info ("Generating " ++ output.text)
  let reading ← readClock
  change (FileAction.writeFile output content reading.disk)
  modify fun state => { state with events := state.events ++ [.written output reading.disk] }

end Action

end MessageCatalog
