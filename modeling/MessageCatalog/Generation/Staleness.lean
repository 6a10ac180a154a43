import MessageCatalog.FileTree.Basic

/-!
# Staleness

Whether an output must be generated again is decided by times alone: it is current when it is at
least as new as its source. Forcing makes every output stale, except a locale's properties file that
is the hand-maintained file itself.
-/

namespace MessageCatalog

/-- The outcome of comparing a source with an output. -/
inductive Decision where
  | forced
  | missing (output : Path)
  | older (output : Path)
  | current (output : Path)
  /-- The output is maintained by hand. -/
  | byHand (output : Path)
  | allCurrent
deriving DecidableEq, Repr

namespace Decision

/-- The output need not be generated. -/
def isCurrent : Decision → Bool
  | .forced => false
  | .missing _ => false
  | .older _ => false
  | .current _ => true
  | .byHand _ => true
  | .allCurrent => true

/-- The wording of the outcome. -/
def reason : Decision → Text
  | .forced => "regeneration forced"
  | .missing output => output.text ++ " does not exist"
  | .older output => output.text ++ " is older than its source"
  | .current output => output.text ++ " is up to date"
  | .byHand output => output.text ++ " is maintained by hand"
  | .allCurrent => "all outputs are up to date"

/-- Whether an output is at least as new as a source of the given time, by the times that are read of
the two. -/
def ofOutput (t : FileTree) (sourceTime : Time) (output : Path) (force : Bool) :
    Except FileError Decision :=
  if force then .ok .forced
  else
    match t.timeOf output with
    | .ok time => .ok (if sourceTime ≤ time then .current output else .older output)
    | .error ⟨.notFound, _⟩ => .ok (.missing output)
    | .error e => .error e

/-- The decision for the properties file of a locale, whose source is a hand-maintained file that may
be the output itself. -/
def ofLocaleFile (t : FileTree) (sourceTime : Time) (output byHandFile : Path) (force : Bool) :
    Except FileError Decision := do
  if ← t.sameEntry output byHandFile then return .byHand output
  else ofOutput t sourceTime output force

/-- The decision for outputs that are generated together: that of the first stale one. -/
def ofOutputs (t : FileTree) (sourceTime : Time) (force : Bool) :
    List Path → Except FileError Decision
  | [] => .ok .allCurrent
  | output :: rest =>
      match ofOutput t sourceTime output force with
      | .ok decision => if decision.isCurrent then ofOutputs t sourceTime force rest else .ok decision
      | .error e => .error e

end Decision

end MessageCatalog
