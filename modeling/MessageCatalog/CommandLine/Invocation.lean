import MessageCatalog.CommandLine.Grammar
import MessageCatalog.Log.Journal
import MessageCatalog.Path
import MessageCatalog.Settings.Basic

/-!
# Invocations

What a command line asks for. There are two commands: generating sources, with settings from a file
that options override, and showing the signature of a template. How much is logged can be said before
and behind the name of the command.
-/

namespace MessageCatalog
namespace CommandLine

/-- The runtime whose types a signature is shown in. -/
inductive Backend where
  | managed
  | native
deriving DecidableEq, Repr

/-- The names of the runtimes. -/
def Backend.names : List (Text × Backend) :=
  [("managed", .managed), ("native", .native)]

/-- What a command line says about a run. -/
structure GenerateArguments where
  /-- The file with the settings, or its directory. -/
  settingsFile : Path
  /-- The includes that replace those of the settings, if there are any. -/
  includes : List Text
  source : Option Path
  destination : Option Path
  resources : Option Path
  mode : Option Text
  locales : Option Text
  style : Option Text
  commentStyle : Option Text
  force : Bool
deriving DecidableEq, Repr

/-- What is asked for. -/
inductive Command where
  | generate (arguments : GenerateArguments)
  | signature (template : Text) (backend : Backend)
deriving DecidableEq, Repr

/-- A command line that can be carried out. -/
structure Invocation where
  verbosity : Verbosity
  /-- The file that log records are added to. -/
  logFile : Option Path
  command : Command
deriving DecidableEq, Repr

namespace Invocation

/-- The option that asks for more log records. -/
def verboseForm : OptionForm := ⟨["-v", "--verbose"], false⟩

/-- A long option with a value. -/
def valueForm (name : Text) : OptionForm := ⟨[name], true⟩

/-- The words before the command and the command itself. -/
def grammar : Grammar :=
  ⟨[verboseForm, valueForm "--log-file"], .command⟩

/-- The words behind the name of the command that generates. -/
def generateGrammar : Grammar :=
  ⟨[verboseForm, valueForm "--config", valueForm "--mode", valueForm "--srcdir",
      valueForm "--destdir", valueForm "--resdir", valueForm "--locales", valueForm "--style",
      ⟨["--force"], false⟩, valueForm "--comment-style"], .any⟩

/-- The words behind the name of the command that shows signatures. -/
def signatureGrammar : Grammar :=
  ⟨[verboseForm, valueForm "--backend"], .one⟩

/-- What the uses of words say about a run. -/
def generateArguments (u : Uses) : GenerateArguments where
  settingsFile := Path.ofText ((u.value? "--config").getD Settings.fileName)
  includes := u.operands.getD []
  source := (u.value? "--srcdir").map Path.ofText
  destination := (u.value? "--destdir").map Path.ofText
  resources := (u.value? "--resdir").map Path.ofText
  mode := u.value? "--mode"
  locales := u.value? "--locales"
  style := u.value? "--style"
  commentStyle := u.value? "--comment-style"
  force := u.has "--force"

/-- The runtime that the uses of words name. -/
def backend (u : Uses) : Except Refusal Backend := do
  let chosen ← (u.options.filter (·.1 = "--backend".toList)).mapM fun (_, name) =>
    match Backend.names.lookup name with
    | some backend => Except.ok backend
    | none => .error .misused
  return chosen.getLastD .managed

/-- The command that words ask for, and the uses of the words behind its name. -/
def commandOf (words : List Text) : Except Refusal (Command × Uses) := do
  match words with
  | name :: words =>
      if name = "generate".toList then
        let u ← generateGrammar.usesOf words
        return (.generate (generateArguments u), u)
      else if name = "signature".toList then
        let u ← signatureGrammar.usesOf words
        return (.signature ((u.operands.getD []).headD []) (← backend u), u)
      else throw .misused
  | [] => throw .misused

/-- The invocation that the words of a command line ask for. -/
def ofWords (words : List Text) : Except Refusal Invocation := do
  let u ← grammar.usesOf words
  let (command, v) ← commandOf (u.operands.getD [])
  if u.hasLeftover ∨ v.hasLeftover then throw .misused
  return {
    verbosity := if u.has verboseForm.name || v.has verboseForm.name then .verbose else .normal
    logFile := (u.value? "--log-file").map Path.ofText
    command }

end Invocation

/-- The settings of a run with what the command line says about it. -/
def GenerateArguments.override (a : GenerateArguments) (s : Settings) : Settings where
  source := a.source.or s.source
  destination := a.destination.or s.destination
  resources := a.resources.or s.resources
  mode := a.mode.getD s.mode
  locales := a.locales.or s.locales
  style := a.style.getD s.style
  force := a.force || s.force
  commentStyle := a.commentStyle.getD s.commentStyle
  includes := if a.includes.isEmpty then s.includes else a.includes.map .ofName
  shapes := s.shapes

end CommandLine
end MessageCatalog
