import MessageCatalog.Yaml.Failure

/-!
# Dates and moments in documents

A date is a year of four digits, a month and a day with hyphens; a moment is a date and a time of day
behind a `T` or white space, with a fraction of a second and an offset perhaps. A plain scalar that is
a date has two digits each for the month and the day.
-/

namespace MessageCatalog
namespace Yaml
namespace Moment

/-- The parts of a written date or moment. -/
structure Parts where
  date : Nat × Nat × Nat
  /-- Month and day have two digits each. -/
  isPadded : Bool
  /-- The hour, the minute and the second, the digits of the fraction and the offset in minutes. -/
  time : Option ((Nat × Nat × Nat) × Text × Option Int)
deriving DecidableEq, Repr

/-- A pattern takes something off the front of a text, or does not match. -/
abbrev Pattern (α : Type) : Type :=
  StateT Text Option α

namespace Pattern

/-- Takes a run of at least `least` and at most `most` digits. -/
def digits (least most : Nat) : Pattern Text := do
  let text ← get
  let run := (text.takeWhile Char.isDigit).take most
  if run.length < least then failure
  set (text.drop run.length)
  return run

/-- Takes a run of characters of a class. -/
def span (p : Char → Bool) : Pattern Text :=
  modifyGet fun text => (text.takeWhile p, text.dropWhile p)

/-- Takes a character if it comes next, and tells whether it did. -/
def accepts (c : Char) : Pattern Bool :=
  modifyGet fun text => if text.head? = some c then (true, text.drop 1) else (false, text)

/-- Takes a character that must come next. -/
def expect (c : Char) : Pattern Unit := do
  unless ← accepts c do failure

end Pattern

open Pattern

/-- The number that digits denote. -/
def valueOf (run : Text) : Nat :=
  run.foldl (fun n c => 10 * n + (c.toNat - '0'.toNat)) 0

/-- White space within a moment. -/
def isSpace (c : Char) : Bool :=
  c = ' ' || c = '\t'

/-- Takes an offset in minutes, if there is one: zero behind a `Z`, or a signed time of day. -/
def offset : Pattern (Option Int) := do
  if ← accepts 'Z' then return some 0
  let negative ← accepts '-'
  if negative || (← accepts '+') then
    let hours ← digits 1 2
    let minutes ← if ← accepts ':' then digits 2 2 else pure []
    let total : Int := 60 * valueOf hours + valueOf minutes
    return some (if negative then -total else total)
  else return none

/-- Takes a time of day behind its date. -/
def timeOfDay : Pattern ((Nat × Nat × Nat) × Text × Option Int) := do
  if !((← accepts 'T') || (← accepts 't')) then
    if (← span isSpace).isEmpty then failure
  let hour ← digits 1 2
  expect ':'
  let minute ← digits 2 2
  expect ':'
  let second ← digits 2 2
  let fraction ← if ← accepts '.' then span Char.isDigit else pure []
  let isSpaced := !(← span isSpace).isEmpty
  let ahead ← offset
  if isSpaced && ahead.isNone then failure
  return ((valueOf hour, valueOf minute, valueOf second), fraction, ahead)

/-- Takes a date and a time of day perhaps. -/
def parts : Pattern Parts := do
  let year ← digits 4 4
  expect '-'
  let month ← digits 1 2
  expect '-'
  let day ← digits 1 2
  let isPadded := month.length = 2 && day.length = 2
  let date := (valueOf year, valueOf month, valueOf day)
  if [[], ['\n']].contains (← get) then return ⟨date, isPadded, none⟩
  return ⟨date, isPadded, some (← timeOfDay)⟩

/-- The parts of a date or moment that makes up a whole text, the end of a last line apart. -/
def parts? (t : Text) : Option Parts :=
  match parts.run t with
  | some (p, []) => some p
  | some (p, ['\n']) => some p
  | _ => none

/-- The form of a plain date or moment. -/
def isPlain (t : Text) : Bool :=
  match parts? t with
  | some p => p.isPadded || p.time.isSome
  | none => false

/-- The digits of a fraction of a second that count. -/
def fractionDigits : Nat := 6

/-- The microseconds that the digits of a fraction denote. -/
def microseconds (fraction : Text) : Nat :=
  let run := fraction.take fractionDigits
  valueOf (run ++ List.replicate (fractionDigits - run.length) '0')

/-- The date or the moment that parts denote. -/
def ofParts (p : Parts) : Except CalendarFault (CalendarDate ⊕ CalendarMoment) :=
  match p.time with
  | none =>
      let (year, month, day) := p.date
      (CalendarDate.ofParts year month day).map .inl
  | some (time, fraction, offset) =>
      (CalendarMoment.ofParts p.date time (microseconds fraction) offset).map .inr

/-- The date or the moment that a scalar denotes. -/
def ofText (t : Text) : Except Failure (CalendarDate ⊕ CalendarMoment) :=
  match parts? t with
  | some p => (ofParts p).mapError .outOfCalendar
  | none => .error .wrongMoment

end Moment
end Yaml
end MessageCatalog
