import MessageCatalog.Text.Digit
import MessageCatalog.Text.Displayed
import MessageCatalog.Yaml.Calendar

/-!
# Failures of documents

Why a document gives no value. A document that breaks the rules of the format is malformed, which is
all that is said about it. The other failures concern scalars whose form is right but which denote
nothing: numbers with wrong digits, days that no month has, characters that do not exist.
-/

namespace MessageCatalog
namespace Yaml

/-- Why a document gives no value. -/
inductive Failure where
  /-- The document breaks the rules of the format. -/
  | malformed
  /-- An escaped character lies beyond the last code point. -/
  | unknownCharacter
  /-- The number of an escaped character does not fit into a signed word of 32 bits. -/
  | oversizedCharacter
  /-- A decimal number has too many digits to be read or written. -/
  | numberTooLong
  | wrongInteger (base : Nat) (given : Text)
  | wrongNumber (given : Text)
  /-- A number has no digits. -/
  | emptyNumber
  | unknownBoolean (given : Text)
  /-- A text is neither a date nor a moment. -/
  | wrongMoment
  /-- A mapping that stands for a text is used as a moment. -/
  | momentOfMapping
  | outOfCalendar (fault : CalendarFault)
deriving DecidableEq, Repr

/-- The greatest length of a displayed wrong integer. -/
def maxShown : Nat := 200

/-- A span of time as days and the seconds of a day. -/
def spanText (minutes : Int) : Text :=
  let days := minutes.fdiv CalendarMoment.dayMinutes
  let seconds := minutes.fmod CalendarMoment.dayMinutes * 60
  let parts : List Text :=
    (if days = 0 then [] else ["days=" ++ Text.ofInt days])
      ++ (if seconds = 0 then [] else ["seconds=" ++ Text.ofInt seconds])
  "datetime.timedelta(" ++ (if parts.isEmpty then ['0'] else Text.join ", " parts) ++ ")"

/-- The wording of a calendar fault. -/
def calendarMessage : CalendarFault → Text
  | .year given => "year " ++ Text.ofNat given ++ " is out of range"
  | .month => "month must be in 1..12"
  | .day => "day is out of range for month"
  | .hour => "hour must be in 0..23"
  | .minute => "minute must be in 0..59"
  | .second => "second must be in 0..59"
  | .offset minutes =>
      "offset must be a timedelta strictly between -timedelta(hours=24) and "
        ++ "timedelta(hours=24), not " ++ spanText minutes ++ "."

/-- The wording of a failure; a malformed document has none of its own. -/
def Failure.message : Failure → Text
  | .malformed => []
  | .unknownCharacter => "chr() arg not in range(0x110000)"
  | .oversizedCharacter => "Python int too large to convert to C int"
  | .numberTooLong => Text.tooManyDigits
  | .wrongInteger base given =>
      "invalid literal for int() with base " ++ Text.ofNat base ++ ": "
        ++ given.displayed.take maxShown
  | .wrongNumber given => "could not convert string to float: " ++ given.displayed
  | .emptyNumber => "string index out of range"
  | .unknownBoolean given => given.displayed
  | .wrongMoment => "'NoneType' object has no attribute 'groupdict'"
  | .momentOfMapping => "expected string or bytes-like object, got 'list'"
  | .outOfCalendar fault => calendarMessage fault

/-- The decimal digits of an integer, unless there are too many. -/
def integerText (i : Int) : Except Failure Text :=
  if Text.maxDigits < (Text.ofNat i.natAbs).length then .error .numberTooLong else .ok (Text.ofInt i)

end Yaml
end MessageCatalog
