import MessageCatalog.Yaml.Failure

/-!
# Positions in a document

A cursor is the text that is left of a document together with the place that has been reached. Scans
take something off the text and move the cursor along, or fail. White space between tokens is made of
blanks only; a tab ends a token but does not stand between two.
-/

namespace MessageCatalog
namespace Yaml

/-- The text that is left of a document and the place it starts at. -/
structure Cursor where
  rest : Text
  /-- The number of characters before the place. -/
  index : Nat
  line : Nat
  column : Nat
deriving DecidableEq, Repr

/-- The mark at the start of a text that tells the order of its bytes. It has no width. -/
def byteOrderMark : Char := '\uFEFF'

/-- The characters that end a line. -/
def isBreak (c : Char) : Bool :=
  c = '\n' || c = '\x85' || c = '\u2028' || c = '\u2029'

/-- The line ends here. -/
def endsLine : Option Char → Bool
  | none => true
  | some c => isBreak c

/-- A blank or the end of the line comes here. -/
def endsWord : Option Char → Bool
  | none => true
  | some c => c = ' ' || isBreak c

/-- A blank, a tab or the end of the line comes here. -/
def endsToken : Option Char → Bool
  | none => true
  | some c => c = ' ' || c = '\t' || isBreak c

/-- The characters that a document may contain. -/
def isAllowed (c : Char) : Bool :=
  let n := c.toNat
  n = 0x9 || n = 0xA || n = 0xD || (0x20 ≤ n && n ≤ 0x7E) || n = 0x85 || (0xA0 ≤ n && n ≤ 0xD7FF)
    || (0xE000 ≤ n && n ≤ 0xFFFD) || 0x10000 ≤ n

/-- The characters of names of anchors, handles and directives. -/
def isNameChar (c : Char) : Bool :=
  c.isAlphanum || c = '-' || c = '_'

namespace Cursor

/-- The start of a text. -/
def start (t : Text) : Cursor :=
  ⟨t, 0, 0, 0⟩

/-- The cursor behind the next character. -/
def advance (k : Cursor) : Cursor :=
  match k.rest with
  | [] => k
  | c :: rest =>
      if isBreak c then ⟨rest, k.index + 1, k.line + 1, 0⟩
      else ⟨rest, k.index + 1, k.line, if c = byteOrderMark then k.column else k.column + 1⟩

/-- The cursor behind the next `n` characters. -/
def skip : Nat → Cursor → Cursor
  | 0, k => k
  | n + 1, k => skip n k.advance

/-- The character that comes `n` places after the next one. -/
def peek (k : Cursor) (n : Nat) : Option Char :=
  k.rest[n]?

/-- Three equal signs of a document's start or end come next, and nothing is attached to them. -/
def atMark (k : Cursor) (mark : Char) : Bool :=
  k.rest.take 3 == [mark, mark, mark] && endsToken (k.peek 3)

/-- The start or the end of a document comes next. -/
def atSeparator (k : Cursor) : Bool :=
  k.atMark '-' || k.atMark '.'

end Cursor

/-- A scan takes a value off a document, or fails. -/
abbrev Scan (α : Type) : Type :=
  StateT Cursor (Except Failure) α

namespace Scan

/-- Gives up: the document is malformed. -/
def fail {α : Type} : Scan α :=
  throw .malformed

/-- Goes on only if the condition holds. -/
def require (condition : Bool) : Scan Unit :=
  if condition then return () else fail

/-- The next character. -/
def next : Scan (Option Char) :=
  return (← get).peek 0

/-- A bound for the number of steps that each take a character. -/
def fuel : Scan Nat :=
  return (← get).rest.length + 1

/-- Takes `n` characters. -/
def take (n : Nat) : Scan Text := do
  let k ← get
  set (k.skip n)
  return k.rest.take n

/-- Takes one character that is known to come next. -/
def drop : Scan Unit :=
  modify Cursor.advance

/-- Takes the longest run of characters of a class. -/
def span (p : Char → Bool) : Scan Text := do
  take ((← get).rest.takeWhile p).length

/-- Takes blanks. -/
def blanks : Scan Unit := do
  let _ ← span (· = ' ')

/-- Takes one end of a line if it comes next; all but two kinds of it are read as a line feed. -/
def lineBreak : Scan Text := do
  match ← next with
  | some c =>
      if c = '\n' ∨ c = '\x85' then do drop; return ['\n']
      else if isBreak c then do drop; return [c]
      else return []
  | none => return []

/-- Takes a comment if one starts here. -/
def comment : Scan Unit := do
  if (← next) = some '#' then
    let _ ← span (!isBreak ·)

/-- Takes the rest of a line that has nothing but blanks and a comment. -/
def restOfLine : Scan Unit := do
  blanks
  comment
  require (endsLine (← next))
  let _ ← lineBreak

/-- Takes a number in decimal digits. -/
def number : Scan Nat := do
  let digits ← span Char.isDigit
  require (!digits.isEmpty)
  if Text.maxDigits < digits.length then throw .numberTooLong
  return digits.foldl (fun n c => 10 * n + (c.toNat - '0'.toNat)) 0

end Scan

end Yaml
end MessageCatalog
