import MessageCatalog.Text.Basic

/-!
# Calendar values

Dates and moments as documents write them. A date is a day of the years 1 to 9999; a moment is a
date with a time of day to the microsecond and perhaps an offset from universal time. Parts are
checked from the year downwards, and the first one out of range is reported.
-/

namespace MessageCatalog

/-- A day of the calendar. -/
structure CalendarDate where
  year : Nat
  month : Nat
  day : Nat
deriving DecidableEq, Repr

/-- A time of day on a date. -/
structure CalendarMoment where
  date : CalendarDate
  hour : Nat
  minute : Nat
  second : Nat
  microsecond : Nat
  /-- The minutes by which the clock is ahead of universal time, if they are known. -/
  offset : Option Int
deriving DecidableEq, Repr

/-- Why parts make no calendar value. -/
inductive CalendarFault where
  | year (given : Nat)
  | month
  | day
  | hour
  | minute
  | second
  /-- The offset is a day or more. -/
  | offset (minutes : Int)
deriving DecidableEq, Repr

namespace CalendarDate

/-- Every fourth year is a leap year, except for centuries that 400 does not divide. -/
def isLeapYear (year : Nat) : Bool :=
  year % 4 = 0 && (year % 100 ≠ 0 || year % 400 = 0)

/-- The number of days of a month. -/
def daysOfMonth (year month : Nat) : Nat :=
  if month = 2 then (if isLeapYear year then 29 else 28)
  else if [4, 6, 9, 11].contains month then 30
  else 31

/-- The date with the given parts. -/
def ofParts (year month day : Nat) : Except CalendarFault CalendarDate :=
  if year < 1 ∨ 9999 < year then .error (.year year)
  else if month < 1 ∨ 12 < month then .error .month
  else if day < 1 ∨ daysOfMonth year month < day then .error .day
  else .ok ⟨year, month, day⟩

/-- The date with hyphens. -/
def text (d : CalendarDate) : Text :=
  Text.padded 4 d.year ++ '-' :: Text.padded 2 d.month ++ '-' :: Text.padded 2 d.day

end CalendarDate

namespace CalendarMoment

/-- The minutes of a day. -/
def dayMinutes : Nat := 1440

/-- The moment with the given parts; the offset is looked at first. -/
def ofParts (date : Nat × Nat × Nat) (time : Nat × Nat × Nat) (microsecond : Nat)
    (offset : Option Int) : Except CalendarFault CalendarMoment := do
  let (year, month, day) := date
  let (hour, minute, second) := time
  if let some minutes := offset then
    if dayMinutes ≤ minutes.natAbs then throw (.offset minutes)
  let date ← CalendarDate.ofParts year month day
  if 23 < hour then throw .hour
  if 59 < minute then throw .minute
  if 59 < second then throw .second
  return ⟨date, hour, minute, second, microsecond, offset⟩

/-- An offset as a signed time of day. -/
def offsetText (minutes : Int) : Text :=
  (if minutes < 0 then '-' else '+') :: Text.padded 2 (minutes.natAbs / 60)
    ++ ':' :: Text.padded 2 (minutes.natAbs % 60)

/-- The moment with a blank between date and time of day. -/
def text (m : CalendarMoment) : Text :=
  let fraction : Text := if m.microsecond = 0 then [] else '.' :: Text.padded 6 m.microsecond
  m.date.text ++ ' ' :: Text.padded 2 m.hour ++ ':' :: Text.padded 2 m.minute
    ++ ':' :: Text.padded 2 m.second ++ fraction ++ (m.offset.map offsetText).getD []

end CalendarMoment

end MessageCatalog
