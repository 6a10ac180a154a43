import MessageCatalog.Log.Journal
import Mathlib.Tactic.Common
import Mathlib.Tactic.SplitIfs

/-!
# What collectors keep and what the console shows

Consoles and collectors share one list of handlers, out of which configuring takes the consoles and
closing takes the last collector. Two views of the list tell them apart: the collectors, innermost
first, form a stack that configuring leaves alone, and there is one console exactly if there has been
a configuration, with the verbosity of the latest one.

**Results.**
* `belongsToTool_loggerName`: a name that does not begin with a dot gives a logger of the tool.
* `Journal.collectors`, `Journal.IsShown`: the two views; what each step does to them.
* `Journal.collectors_after`: what a collector keeps while it is open.
* `Journal.collects_and_shows`: of every sequence of steps, what its collectors keep and what it
  shows.
-/

namespace MessageCatalog

section Loggers

theorem climbsToTool_tool (known : List Text) :
    climbsToTool known ('.' :: toolName.reverse) = true := rfl

/-- Whatever a name holds behind a first character that is no dot, the tool is reached from it. -/
theorem climbsToTool_append (known : List Text) {c : Char} (hc : c ≠ '.') :
    ∀ s : Text, climbsToTool known (s ++ c :: '.' :: toolName.reverse) = true
  | [] => by
      rw [List.nil_append, climbsToTool, if_pos hc]
      exact climbsToTool_tool known
  | [a] => by
      rw [List.singleton_append, climbsToTool]
      have hnext := climbsToTool_append known hc []
      split_ifs
      · exact hnext
      · rfl
      · exact hnext
      · exact climbsToTool_tool known
  | a :: b :: s => by
      rw [List.cons_append, List.cons_append, climbsToTool]
      have hnext := climbsToTool_append known hc (b :: s)
      split_ifs
      · exact hnext
      · rfl
      · exact hnext
      · exact climbsToTool_append known hc s

/-- A name that does not begin with a dot gives a logger of the tool, whatever other loggers there
are. -/
theorem belongsToTool_loggerName (known : List Text) {name : Option Text}
    (h : name.bind List.head? ≠ some '.') : belongsToTool known (loggerName name) = true := by
  cases name with
  | none => rfl
  | some t =>
      cases t with
      | nil => rfl
      | cons c t =>
          have hc : c ≠ '.' := fun hc => h (congrArg some hc)
          have hreverse : (loggerName (some (c :: t))).reverse =
              t.reverse ++ c :: '.' :: toolName.reverse := by simp [loggerName]
          rw [belongsToTool, hreverse, climbsToTool_append known hc, Bool.or_true]

end Loggers

namespace Handler

/-- The verbosity of a console. -/
def verbosity? : Handler → Option Verbosity
  | console verbosity => some verbosity
  | collector _ => none

@[simp] theorem messages?_console (v : Verbosity) : (console v).messages? = none := rfl

@[simp] theorem messages?_collector (messages : List Text) :
    (collector messages).messages? = some messages := rfl

@[simp] theorem verbosity?_console (v : Verbosity) : (console v).verbosity? = some v := rfl

@[simp] theorem verbosity?_collector (messages : List Text) :
    (collector messages).verbosity? = none := rfl

@[simp] theorem isCollector_console (v : Verbosity) : (console v).isCollector = false := rfl

@[simp] theorem isCollector_collector (messages : List Text) :
    (collector messages).isCollector = true := rfl

/-- Without a collector to take there are only consoles. -/
theorem messages_of_takeLastCollector_eq_none {hs : List Handler}
    (h : takeLastCollector hs = none) : hs.filterMap messages? = [] := by
  induction hs with
  | nil => rfl
  | cons handler rest ih =>
      rw [takeLastCollector] at h
      cases hrest : takeLastCollector rest with
      | some taken =>
          rw [hrest] at h
          cases h
      | none =>
          rw [hrest] at h
          cases handler with
          | console verbosity => exact ih hrest
          | collector messages => cases h

/-- The last collector is taken, and nothing else. -/
theorem filterMap_of_takeLastCollector {hs rest : List Handler} {messages : List Text}
    (h : takeLastCollector hs = some (messages, rest)) :
    hs.filterMap messages? = rest.filterMap messages? ++ [messages] ∧
      hs.filterMap verbosity? = rest.filterMap verbosity? := by
  induction hs generalizing rest with
  | nil => cases h
  | cons handler others ih =>
      rw [takeLastCollector] at h
      cases hothers : takeLastCollector others with
      | some taken =>
          obtain ⟨messages', rest'⟩ := taken
          rw [hothers] at h
          cases h
          obtain ⟨hmessages, hconsoles⟩ := ih hothers
          cases handler <;> simp [List.filterMap_cons, hmessages, hconsoles]
      | none =>
          rw [hothers] at h
          cases handler with
          | console verbosity => cases h
          | collector messages' =>
              cases h
              simp [List.filterMap_cons, messages_of_takeLastCollector_eq_none hothers]

/-- The lines of a list of handlers are those of its consoles. -/
theorem flatMap_lines (r : LogRecord) (hs : List Handler) :
    hs.flatMap (lines r) = (hs.filterMap verbosity?).flatMap fun v => lines r (console v) := by
  induction hs with
  | nil => rfl
  | cons handler rest ih => cases handler <;> simp [List.filterMap_cons, lines, ih]

end Handler

namespace Journal

open Handler

variable {j : Journal}

/-- The messages of the open collectors, innermost first. -/
def collectors (j : Journal) : List (List Text) :=
  (j.handlers.filterMap messages?).reverse

/-- The console has the verbosity of the latest configuration, and there is none before. -/
def IsShown (j : Journal) : Prop :=
  j.handlers.filterMap verbosity? = j.verbosity.toList

/-- The messages that collectors keep of a record. -/
def kept (j : Journal) (r : LogRecord) : List Text :=
  if belongsToTool j.loggers r.logger && r.level = .warning then [r.message] else []

theorem collectors_configure (j : Journal) (v : Verbosity) :
    (j.configure v).collectors = j.collectors := by
  unfold collectors configure
  dsimp only
  induction j.handlers with
  | nil => rfl
  | cons handler rest ih =>
      cases handler <;> simpa [List.filterMap_cons, List.filter_cons] using ih

theorem collectors_collect (j : Journal) : j.collect.collectors = [] :: j.collectors := by
  simp [collectors, collect]

/-- Closing the innermost collector hands out what it has kept. -/
theorem release_eq (j : Journal) :
    j.release.1 = j.collectors.headD [] ∧ j.release.2.collectors = j.collectors.tail := by
  unfold release collectors
  cases htake : takeLastCollector j.handlers with
  | none => simp [messages_of_takeLastCollector_eq_none htake]
  | some taken =>
      obtain ⟨messages, rest⟩ := taken
      simp [(filterMap_of_takeLastCollector htake).1]

/-- Warnings pass every threshold that can be set. -/
theorem passesOn_warning {r : LogRecord} (h : r.level = .warning) :
    j.passesOn r = belongsToTool j.loggers r.logger := by
  have hreaches : r.level.reaches j.threshold = true := by
    rw [h, threshold]
    cases j.verbosity with
    | none => rfl
    | some v => cases v <;> rfl
  rw [passesOn, hreaches, Bool.and_true]

theorem messages?_taking (r : LogRecord) (handler : Handler) :
    (handler.taking r).messages? =
      handler.messages?.map (· ++ if r.level = .warning then [r.message] else []) := by
  cases handler with
  | console v => rfl
  | collector messages =>
      rw [taking]
      split <;> simp

theorem filterMap_taking (r : LogRecord) (handlers : List Handler) :
    (handlers.map (taking r)).filterMap messages? =
      (handlers.filterMap messages?).map
        (· ++ if r.level = .warning then [r.message] else []) := by
  rw [List.filterMap_map, List.map_filterMap]
  exact congrArg (List.filterMap · handlers) (funext (messages?_taking r))

theorem collectors_record (j : Journal) (r : LogRecord) :
    (j.record r).collectors = j.collectors.map (· ++ j.kept r) := by
  unfold collectors record kept
  dsimp only
  by_cases hlevel : r.level = .warning
  · rw [passesOn_warning hlevel]
    cases belongsToTool j.loggers r.logger with
    | false => simp
    | true =>
        rw [if_pos rfl, filterMap_taking, if_pos hlevel]
        simp [hlevel]
  · split
    · rw [filterMap_taking, if_neg hlevel]
      simp [hlevel]
    · simp [hlevel]

theorem verbosity?_taking (r : LogRecord) (handler : Handler) :
    (handler.taking r).verbosity? = handler.verbosity? := by
  cases handler with
  | console v => rfl
  | collector messages =>
      rw [taking]
      split <;> rfl

theorem isShown_configure (j : Journal) (v : Verbosity) : (j.configure v).IsShown := by
  unfold IsShown configure
  dsimp only
  have hcollectors : (j.handlers.filter isCollector).filterMap verbosity? = [] := by
    induction j.handlers with
    | nil => rfl
    | cons handler rest ih => cases handler <;> simpa [List.filterMap_cons] using ih
  rw [List.filterMap_append, hcollectors]
  rfl

theorem IsShown.collect (h : j.IsShown) : j.collect.IsShown := by
  unfold IsShown Journal.collect at *
  simpa [List.filterMap_cons] using h

theorem IsShown.release (h : j.IsShown) : j.release.2.IsShown := by
  unfold Journal.release
  cases htake : takeLastCollector j.handlers with
  | none => exact h
  | some taken => exact (filterMap_of_takeLastCollector htake).2.symm.trans h

theorem IsShown.record (h : j.IsShown) (r : LogRecord) : (j.record r).IsShown := by
  unfold IsShown Journal.record at *
  dsimp only
  split
  · rw [List.filterMap_map, ← h]
    exact congrArg (List.filterMap · _) (funext fun handler => verbosity?_taking r handler)
  · exact h

/-- A console that is there shows a record once, if the record reaches its threshold. -/
theorem IsShown.shown_eq (h : j.IsShown) {v : Verbosity} (hv : j.verbosity = some v) {r : LogRecord}
    (hr : belongsToTool j.loggers r.logger = true) :
    j.shown r = if r.level.reaches v.threshold then [r.consoleLine] else [] := by
  have hthreshold : j.threshold = v.threshold := by rw [threshold, hv]
  have hconsole : j.handlers.filterMap verbosity? = [v] := by rw [h, hv, Option.toList_some]
  have hhandlers : j.handlers.isEmpty = false := by
    cases hj : j.handlers with
    | nil =>
        rw [hj] at hconsole
        cases hconsole
    | cons handler rest => rfl
  rw [shown, passesOn, hr, hhandlers, hthreshold, flatMap_lines, hconsole]
  simp [lines]

section Steps

/-- A step of logging. -/
inductive Step where
  | configure (verbosity : Verbosity)
  | log (name : Option Text) (level : LogLevel) (message : Text)
  | collect
  | release
deriving DecidableEq, Repr

/-- The record of a message that is logged under a name. -/
def recordOf (name : Option Text) (level : LogLevel) (message : Text) : LogRecord :=
  ⟨level, loggerName name, message⟩

/-- The journal behind a step. -/
def behind (j : Journal) : Step → Journal
  | .configure verbosity => j.configure verbosity
  | .log name level message => j.record (recordOf name level message)
  | .collect => j.collect
  | .release => j.release.2

/-- The journal after steps. -/
def after (j : Journal) (steps : List Step) : Journal :=
  steps.foldl behind j

/-- The collectors that are left open inside one that has been opened in front of the steps, with
`inner` open ones inside it to begin with; none if the steps close it. -/
def leftOpen : Nat → List Step → Option Nat
  | inner, [] => some inner
  | inner, .collect :: steps => leftOpen (inner + 1) steps
  | 0, .release :: _ => none
  | inner + 1, .release :: steps => leftOpen inner steps
  | inner, .configure _ :: steps => leftOpen inner steps
  | inner, .log _ _ _ :: steps => leftOpen inner steps

/-- The messages that are logged at level warning, neither above nor below it, on loggers of the
tool. -/
def heard (known : List Text) : List Step → List Text
  | [] => []
  | .log name level message :: steps =>
      (if belongsToTool known (loggerName name) && level = .warning then [message] else [])
        ++ heard (loggerName name :: known) steps
  | .configure _ :: steps => heard known steps
  | .collect :: steps => heard known steps
  | .release :: steps => heard known steps

/-- The verbosity that the latest configuration among the steps sets, if there is one. -/
def latest : Option Verbosity → List Step → Option Verbosity
  | set, [] => set
  | _, .configure verbosity :: steps => latest (some verbosity) steps
  | set, .log _ _ _ :: steps => latest set steps
  | set, .collect :: steps => latest set steps
  | set, .release :: steps => latest set steps

theorem after_append (j : Journal) (steps steps' : List Step) :
    j.after (steps ++ steps') = (j.after steps).after steps' :=
  List.foldl_append ..

/-- While a collector is open it keeps what is heard, whatever is configured and whatever other
collectors are opened and closed in the meantime. -/
theorem collectors_after (steps : List Step) {inner left : Nat} {messages : List Text}
    (hopen : leftOpen inner steps = some left) (h : j.collectors[inner]? = some messages) :
    (j.after steps).collectors[left]? = some (messages ++ heard j.loggers steps) := by
  induction steps generalizing j inner messages with
  | nil =>
      cases hopen
      rw [heard, List.append_nil]
      exact h
  | cons step steps ih =>
      cases step with
      | configure v =>
          exact ih (j := j.configure v) hopen (by rw [collectors_configure]; exact h)
      | log name level message =>
          have hkept : (j.record (recordOf name level message)).collectors[inner]? =
              some (messages ++ j.kept (recordOf name level message)) := by
            rw [collectors_record, List.getElem?_map, h, Option.map_some]
          have hafter := ih hopen hkept
          rw [List.append_assoc] at hafter
          exact hafter
      | collect =>
          exact ih (j := j.collect) hopen (by rw [collectors_collect]; exact h)
      | release =>
          cases inner with
          | zero => cases hopen
          | succ inner =>
              have hloggers : j.release.2.loggers = j.loggers := by
                rw [release]
                split <;> rfl
              have hafter := ih (j := j.release.2) hopen
                (by rw [(release_eq j).2, List.getElem?_tail]; exact h)
              rw [hloggers] at hafter
              exact hafter

theorem IsShown.after (h : j.IsShown) (steps : List Step) : (j.after steps).IsShown := by
  induction steps generalizing j with
  | nil => exact h
  | cons step steps ih =>
      cases step with
      | configure v => exact ih (isShown_configure j v)
      | log name level message => exact ih (h.record _)
      | collect => exact ih h.collect
      | release => exact ih h.release

theorem verbosity_after (j : Journal) (steps : List Step) :
    (j.after steps).verbosity = latest j.verbosity steps := by
  induction steps generalizing j with
  | nil => rfl
  | cons step steps ih =>
      cases step with
      | configure v => exact ih _
      | log name level message => exact ih _
      | collect => exact ih _
      | release =>
          have hverbosity : j.release.2.verbosity = j.verbosity := by
            rw [release]
            split <;> rfl
          exact (ih _).trans (congrArg (latest · steps) hverbosity)

/-- Every name that does not begin with a dot gives a logger of the tool. A collector keeps exactly
the warnings that loggers of the tool log between its opening and its closing, in order, and hands
them out when it is closed. Once there has been a configuration, a record of a logger of the tool is
shown exactly once if it reaches the threshold of the latest one, and otherwise not at all. -/
theorem collects_and_shows :
    (∀ known name, name.bind List.head? ≠ some '.' →
      belongsToTool known (loggerName name) = true) ∧
    (∀ before during left, leftOpen 0 during = some left →
      (initial.after (before ++ .collect :: during)).collectors[left]? =
          some (heard (initial.after before).loggers during) ∧
        (left = 0 → (initial.after (before ++ .collect :: during)).release.1 =
          heard (initial.after before).loggers during)) ∧
    ∀ steps verbosity, latest none steps = some verbosity → ∀ name level message,
      belongsToTool (initial.after steps).loggers (loggerName name) = true →
        (initial.after steps).shown (recordOf name level message) =
          if level.reaches verbosity.threshold then
            [(recordOf name level message).consoleLine]
          else [] := by
  refine ⟨fun known name => belongsToTool_loggerName known, ?_, ?_⟩
  · intro before during left hopen
    have hstart : (initial.after before).collect.collectors[0]? = some [] := by
      rw [collectors_collect]
      rfl
    have hkept := collectors_after during hopen hstart
    have hafter : initial.after (before ++ .collect :: during) =
        (initial.after before).collect.after during := after_append _ _ _
    rw [List.nil_append] at hkept
    rw [hafter]
    refine ⟨hkept, ?_⟩
    rintro rfl
    rw [(release_eq _).1, List.headD_eq_head?_getD, List.head?_eq_getElem?, hkept]
    rfl
  · intro steps verbosity hlatest name level message hname
    have hshown : initial.IsShown := rfl
    exact (hshown.after steps).shown_eq ((verbosity_after _ _).trans hlatest) hname

/-- Steps that configure, and open and close a collector, on the way. -/
def busySteps : List Step :=
  [.log (some "a.b") .warning "x", .collect, .configure .normal, .log none .warning "y",
    .log (some "c") .error "z", .release, .log (some "c") .warning "x"]

/-- The outer collector keeps three warnings, and behind the steps an error is shown once. -/
theorem busySteps_collected :
    (initial.after (.collect :: busySteps)).release.1 = ["x".toList, "y".toList, "x".toList] ∧
      (initial.after busySteps).shown (recordOf (some "c") .error "w") =
        ["[resgen] ERROR w".toList] := by
  obtain ⟨hnames, hcollected, hshown⟩ := collects_and_shows
  constructor
  · exact (hcollected [] busySteps 0 rfl).2 rfl
  · exact hshown busySteps .normal rfl (some "c") .error "w" (hnames _ _ (by decide))

/-- A logger whose name begins with a dot misses the root of the tool: its warning is collected
nowhere, and the console does not show what it logs at the threshold. -/
theorem dottedName_not_heard :
    leftOpen 0 [.log (some ".a") .warning "m"] = some 0 ∧
      (initial.after [.collect, .log (some ".a") .warning "m"]).release.1 = [] ∧
      latest none [.configure .normal] = some .normal ∧
      LogLevel.info.reaches Verbosity.normal.threshold = true ∧
      (initial.after [.configure .normal]).shown (recordOf (some ".a") .info "m") = [] := by
  decide

end Steps

end Journal

end MessageCatalog
