import MessageCatalog.FileTree.Basic

/-!
# Timestamps

The calendar date and the time of day of an instant, in universal time. A day belongs to a cycle of
400 years, which always has the same number of days; years are counted from March, so that the leap
day is the last day of a year.
-/

namespace MessageCatalog

/-- A date and a time of day. -/
structure Timestamp where
  year : Int
  month : Nat
  day : Nat
  hour : Nat
  minute : Nat
  second : Nat
  millisecond : Nat
deriving DecidableEq, Repr

namespace Timestamp

/-- The days of 400 years. -/
def cycleDays : Int := 146097

/-- The year, the month and the day that are the given number of days after the first of January
1970. -/
def civil (days : Int) : Int × Nat × Nat :=
  let shifted := days + 719468
  let cycle := shifted.fdiv cycleDays
  let dayOfCycle := (shifted.fmod cycleDays).toNat
  let yearOfCycle :=
    (dayOfCycle - dayOfCycle / 1460 + dayOfCycle / 36524 - dayOfCycle / 146096) / 365
  let dayOfYear := dayOfCycle - (365 * yearOfCycle + yearOfCycle / 4 - yearOfCycle / 100)
  let shiftedMonth := (5 * dayOfYear + 2) / 153
  let day := dayOfYear - (153 * shiftedMonth + 2) / 5 + 1
  let month := if shiftedMonth < 10 then shiftedMonth + 3 else shiftedMonth - 9
  (cycle * 400 + yearOfCycle + (if month ≤ 2 then 1 else 0), month, day)

/-- The date and the time of day of an instant. -/
def ofTime (time : Time) : Timestamp :=
  let milliseconds := time.fdiv 1000000
  let days := milliseconds.fdiv 86400000
  let rest := (milliseconds.fmod 86400000).toNat
  let (year, month, day) := civil days
  { year, month, day
    hour := rest / 3600000
    minute := rest / 60000 % 60
    second := rest / 1000 % 60
    millisecond := rest % 1000 }

/-- The date with hyphens. -/
def dateText (t : Timestamp) : Text :=
  Text.padded 4 t.year.toNat ++ '-' :: Text.padded 2 t.month ++ '-' :: Text.padded 2 t.day

/-- The time of day with colons, to the second. -/
def clockText (t : Timestamp) : Text :=
  Text.padded 2 t.hour ++ ':' :: Text.padded 2 t.minute ++ ':' :: Text.padded 2 t.second

/-- The form that generated files show: to the second, with the offset of universal time. -/
def headerText (t : Timestamp) : Text :=
  t.dateText ++ 'T' :: t.clockText ++ "+00:00"

/-- The form that log files show: to the millisecond. -/
def logText (t : Timestamp) : Text :=
  t.dateText ++ ' ' :: t.clockText ++ ',' :: Text.padded 3 t.millisecond

end Timestamp

end MessageCatalog
