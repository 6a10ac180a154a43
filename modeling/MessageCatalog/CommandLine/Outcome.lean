import MessageCatalog.CommandLine.Invocation
import MessageCatalog.Generation.Run
import MessageCatalog.Settings.Reading

/-!
# Outcomes of command lines

Carrying out a command line gives an exit code, what is printed and what is reported, and it changes
the file tree. Log records go to the reports and, where a log file is named, to the end of that file,
which is opened before anything else is done. Refused settings, refused templates and includes that
fail give an exit code of their own; any other failure ends the command without an outcome.
-/

namespace MessageCatalog
namespace CommandLine

/-- What is left of a command that has ended. -/
structure Outcome where
  exitCode : Nat
  /-- What is printed. -/
  output : Text
  /-- What is reported: log records and complaints. -/
  reports : Text
deriving DecidableEq, Repr

/-- Why a command ends without an outcome. -/
inductive Breakdown where
  | settings (e : Settings.ReadingFailure)
  | generation (e : Failure)
  | logFile (e : FileError)
  | numberTooLong
deriving DecidableEq

/-- The wording of a breakdown. -/
def Breakdown.message : Breakdown → Text
  | .settings e => e.message
  | .generation e => e.message
  | .logFile e => e.message
  | .numberTooLong => Text.tooManyDigits

namespace Outcome

/-- The exit code of a command that does not do what it is asked for. -/
def failed : Nat := 1

/-- The exit code of a command line that asks for nothing. -/
def misused : Nat := 2

/-- The outcome of a command that is refused. -/
def refusal (command : Text) (message : Text) : Outcome :=
  ⟨failed, [], toolName ++ ' ' :: command ++ " failed: " ++ message ++ ['\n']⟩

/-- The outcome of a command line that is not carried out. -/
def ofRefusal : Refusal → Outcome
  | .help => ⟨0, [], []⟩
  | .misused => ⟨misused, [], []⟩

/-- The line that sums up a run. -/
def summary (r : Generation.Report) : Text :=
  Text.ofNat r.written.length ++ " file(s) generated, " ++ Text.ofNat r.skipped.length
    ++ " up to date, " ++ Text.ofNat r.warnings.length ++ " warning(s), "
    ++ Text.ofNat r.failures.length ++ " failure(s)"

/-- The line for an include that failed. -/
def failureLine (f : Generation.IncludeFailure) : Text :=
  "  " ++ f.name ++ ": " ++ f.message

/-- The outcome of a run with its log records. -/
def ofReport (verbosity : Verbosity) (log : List LogRecord) (r : Generation.Report) : Outcome :=
  let shown := (log.filter (·.level.reaches verbosity.threshold)).map (·.consoleLine)
  { exitCode := if r.isOk then 0 else failed
    output := Text.unlines [summary r]
    reports := Text.unlines (shown ++ r.failures.map failureLine) }

/-- The outcome of showing the signature of a template. -/
def ofSignature (template : Text) (backend : Backend) : Except Breakdown Outcome :=
  let types :=
    match backend with
    | .managed => Managed.types
    | .native => Native.types
  match Template.signature template with
  | .ok s =>
      .ok ⟨0, Text.unlines [s.description, Parameter.listText (s.parameters types)], []⟩
  | .error .numberTooLong => .error .numberTooLong
  | .error e => .ok (refusal "signature" e.message)

end Outcome

/-- A command changes the file tree and may break down. -/
abbrev Carrying (α : Type) : Type :=
  ExceptT Breakdown (StateM FileTree) α

namespace Invocation

/-- The path of the log file from the root. -/
def logPath (tree : FileTree) (p : Path) : Path :=
  (⟨.root, tree.workingDirectory⟩ / p).collapsed

/-- Adds lines to the log file, which is made if it is missing. -/
def appendLog (i : Invocation) (reading : Reading) (records : List LogRecord) : Carrying Unit := do
  let some p := i.logFile | return ()
  let stamp := (Timestamp.ofTime reading.wall).logText
  let lines := (records.filter (·.level.reaches i.verbosity.threshold)).map fun r =>
    stamp ++ ' ' :: r.fileLine
  let tree ← get
  match tree.append (logPath tree p) (Text.unlines lines).utf8 reading.disk with
  | .ok tree => set tree
  | .error e => throw (.logFile e)

/-- The configuration of a run. -/
def configuration (homes : Homes) (tree : FileTree) (a : GenerateArguments) :
    Except Settings.ReadingFailure Configuration := do
  let settings ← Settings.load homes tree a.settingsFile
  (a.override settings).validate.mapError .refused

/-- Generates sources. What was done before a failure stays done and logged. -/
def generate (i : Invocation) (a : GenerateArguments) (homes : Homes) (clock : Clock) :
    Carrying Outcome := do
  match configuration homes (← get) a with
  | .error (.refused e) => return Outcome.refusal "generate" e.message
  | .error e => throw (.settings e)
  | .ok c =>
      let (result, state) := (Generation.run c).run.run (Generation.start (← get) c.table clock)
      set state.tree
      appendLog i (clock state.ticks) state.context.log
      match result with
      | .ok report => return Outcome.ofReport i.verbosity state.context.log report
      | .error e => throw (.generation e)

/-- Carries out an invocation. -/
def carryOut (i : Invocation) (homes : Homes) (clock : Clock) : Carrying Outcome := do
  appendLog i (clock 0) []
  match i.command with
  | .generate a => generate i a homes clock
  | .signature template backend =>
      match Outcome.ofSignature template backend with
      | .ok outcome => return outcome
      | .error e => throw e

/-- The parts of the file tree that an invocation may look at or change. -/
structure Reach where
  /-- The single files and directories. -/
  entries : List Path
  /-- The directories with everything in them. -/
  directories : List Path
deriving DecidableEq, Repr

/-- The reach of an invocation as far as the settings file can be found in a file tree. -/
def reach (i : Invocation) (homes : Homes) (tree : FileTree) : Reach :=
  let log := (i.logFile.map (logPath tree)).toList
  match i.command with
  | .signature .. => ⟨log, []⟩
  | .generate a =>
      let file := (a.settingsFile.expanded homes).getD a.settingsFile
      let settings := (file / Path.ofText Settings.fileName)
      let directories :=
        match configuration homes tree a with
        | .error _ => []
        | .ok c =>
            [c.source, c.destination, c.resources]
              ++ c.includes.map fun item => (c.source / Path.ofText item.name).parent
      ⟨log ++ [file, settings], directories⟩

end Invocation

/-- Carries out a command line. -/
def carryOut (words : List Text) (homes : Homes) (clock : Clock) : Carrying Outcome :=
  match Invocation.ofWords words with
  | .ok i => i.carryOut homes clock
  | .error e => return .ofRefusal e

end CommandLine
end MessageCatalog
