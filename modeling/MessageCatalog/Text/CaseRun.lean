import MessageCatalog.Text.Basic

/-!
# Runs of letters

The case mappings of Unicode move long runs of letters by the same amount. A run says which letters
it covers and how far it moves them, so that a mapping is a short list of runs.
-/

namespace MessageCatalog

/-- Letters at regular distances that are all moved by the same amount. -/
structure CaseRun where
  /-- The code point of the first letter. -/
  first : Nat
  /-- The number of letters. -/
  count : Nat
  /-- The distance between neighbours. -/
  step : Nat
  /-- What is added to a letter to get its counterpart. -/
  shift : Int

namespace CaseRun

/-- The run contains the code point. -/
def covers (run : CaseRun) (code : Nat) : Bool :=
  run.first ≤ code && code < run.first + run.count * run.step && (code - run.first) % run.step == 0

/-- The counterpart of a character; one that no run contains is its own. -/
def counterpart (runs : List CaseRun) (c : Char) : Char :=
  match runs.find? (·.covers c.toNat) with
  | some run => Char.ofNat (c.toNat + run.shift).toNat
  | none => c

end CaseRun
end MessageCatalog
