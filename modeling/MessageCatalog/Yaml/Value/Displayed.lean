import MessageCatalog.Binary64.Decimal
import MessageCatalog.Yaml.Value.Basic

/-!
# Displayed values

How messages show values. Texts and bytes are quoted, collections show their parts between brackets,
and a collection within itself is shown by an ellipsis. An integer with too many digits cannot be
shown.
-/

namespace MessageCatalog
namespace Yaml

/-- How a byte is shown between quotes of the kind `quote`. -/
def displayedByte (quote : Char) (b : UInt8) : Text :=
  let c := Char.ofNat b.toNat
  if c = quote ∨ c = '\\' then ['\\', c]
  else if c = '\t' then ['\\', 't']
  else if c = '\n' then ['\\', 'n']
  else if c = '\r' then ['\\', 'r']
  else if 0x20 ≤ b ∧ b < 0x7F then [c]
  else '\\' :: 'x' :: Text.hexadecimal 2 b.toNat

/-- Bytes between quotes behind the letter that tells them from a text. -/
def displayedBytes (b : Bytes) : Text :=
  let quote := Text.displayQuote (b.map fun x => Char.ofNat x.toNat)
  'b' :: quote :: b.flatMap (displayedByte quote) ++ [quote]

/-- The name of a type with displayed arguments. -/
def displayedCall (name : Text) (arguments : List Text) : Text :=
  name ++ '(' :: Text.join ", " arguments ++ [')']

/-- A date by its parts. -/
def displayedDate (d : CalendarDate) : Text :=
  displayedCall "datetime.date" ([d.year, d.month, d.day].map Text.ofNat)

/-- An offset from universal time. -/
def displayedOffset (minutes : Int) : Text :=
  if minutes = 0 then "datetime.timezone.utc"
  else displayedCall "datetime.timezone" [spanText minutes]

/-- A moment by its parts; parts of a second that are zero are left out. -/
def displayedMoment (m : CalendarMoment) : Text :=
  let fine : List Nat :=
    if m.microsecond ≠ 0 then [m.second, m.microsecond]
    else if m.second ≠ 0 then [m.second]
    else []
  let parts := [m.date.year, m.date.month, m.date.day, m.hour, m.minute] ++ fine
  let offset : List Text :=
    match m.offset with
    | none => []
    | some minutes => ["tzinfo=" ++ displayedOffset minutes]
  displayedCall "datetime.datetime" (parts.map Text.ofNat ++ offset)

namespace Document

/-- Displayed parts with commas between them, in brackets. -/
def bracketed (opening closing : Char) (parts : List Text) : Text :=
  opening :: Text.join ", " parts ++ [closing]

/-- The value as messages show it, within the given collections. A path on which no collection is met
twice is not longer than twice the number of collections. -/
def displayedWithin (d : Document) (within : List NodeId) :
    Nat → Value → Except Failure Text
  | 0, _ => .ok "..."
  | depth + 1, v => do
      match v with
      | .null => return "None"
      | .boolean b => return if b then "True" else "False"
      | .integer i => integerText i
      | .float x => return x.text
      | .text t => return t.displayed
      | .bytes b => return displayedBytes b
      | .date date => return displayedDate date
      | .moment moment => return displayedMoment moment
      | .sequence id =>
          if within.contains id then return "[...]"
          let items := (d.items? v).getD []
          return bracketed '[' ']' (← items.mapM (displayedWithin d (id :: within) depth))
      | .mapping id =>
          if within.contains id then return "\x7b...\x7d"
          let entries ← ((d.entries? v).getD []).mapM fun (key, item) => do
            let shownKey ← displayedWithin d (id :: within) depth key
            return shownKey ++ ": " ++ (← displayedWithin d (id :: within) depth item)
          return bracketed '\x7b' '\x7d' entries
      | .set id =>
          let members := d.members id
          if members.isEmpty then return "set()"
          return bracketed '\x7b' '\x7d' (← members.mapM (displayedWithin d within depth))
      | .pair key item =>
          let shownKey ← displayedWithin d within depth key
          return bracketed '(' ')' [shownKey, ← displayedWithin d within depth item]

/-- The value as messages show it. -/
def displayed (d : Document) (v : Value) : Except Failure Text :=
  displayedWithin d [] (2 * d.collections.length + 3) v

/-- The value as a text: texts, dates and moments stand without quotes or names. -/
def plainText (d : Document) (v : Value) : Except Failure Text :=
  match v with
  | .text t => .ok t
  | .date date => .ok date.text
  | .moment moment => .ok moment.text
  | v => d.displayed v

end Document
end Yaml
end MessageCatalog
