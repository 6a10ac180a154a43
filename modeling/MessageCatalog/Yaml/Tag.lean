import MessageCatalog.Yaml.Scalar.Moment
import MessageCatalog.Yaml.Scalar.Number

/-!
# Tags

The tag of a node tells which kind of value it is. A plain scalar without a tag is given one by its
form; every other scalar without a tag is a text.
-/

namespace MessageCatalog
namespace Yaml

/-- The kind of value that a node is. -/
inductive Tag where
  | null
  | boolean
  | integer
  | float
  | binary
  | moment
  | orderedMapping
  | pairs
  | set
  | text
  | sequence
  | mapping
  /-- The key under which other mappings are merged into a mapping. -/
  | merge
  /-- The key of the value that stands for a mapping. -/
  | value
  /-- A kind of value that is not known. -/
  | unknown
deriving DecidableEq, Repr

namespace Tag

/-- What the names of the common tags start with. -/
def common : Text := "tag:yaml.org,2002:"

/-- The common tags. -/
def names : List (Text × Tag) :=
  [("null", .null), ("bool", .boolean), ("int", .integer), ("float", .float), ("binary", .binary),
    ("timestamp", .moment), ("omap", .orderedMapping), ("pairs", .pairs), ("set", .set),
    ("str", .text), ("seq", .sequence), ("map", .mapping), ("merge", .merge), ("value", .value)]

/-- The tag with the given full name. -/
def ofName (name : Text) : Tag :=
  if name.startsWith common then (names.lookup (name.drop common.length)).getD .unknown
  else .unknown

/-- The truth values by their names, in lower case. -/
def booleans : List (Text × Bool) :=
  [("yes", true), ("no", false), ("true", true), ("false", false), ("on", true), ("off", false)]

/-- A word in lower case, in upper case or with an initial capital. -/
def isWordCase (word t : Text) : Bool :=
  [word, word.map Char.toUpper, (word.take 1).map Char.toUpper ++ word.drop 1].contains t

/-- The spellings of nothing other than no characters at all. -/
def nulls : List Text := ["~", "null", "Null", "NULL"]

/-- The tag that the form of a plain scalar gives it. -/
def ofPlain (t : Text) : Tag :=
  if booleans.any (isWordCase ·.1 t) then .boolean
  else if Number.isFloat t then .float
  else if Number.isInteger t then .integer
  else if t = "<<".toList then .merge
  else if nulls.contains t then .null
  else if Moment.isPlain t then .moment
  else if t = "=".toList then .value
  else if (["!", "&", "*"] : List Text).contains t then .unknown
  else .text

/-- The tag that the form of a scalar gives it if its form counts. The end of a last line does not. -/
def ofForm (t : Text) : Tag :=
  if t.isEmpty then .null
  else
    match t.getLast? with
    | some '\n' => if t.length = 1 then .text else ofPlain t.dropLast
    | _ => ofPlain t

end Tag

end Yaml
end MessageCatalog
