import MessageCatalog.Markup.Character
import MessageCatalog.Text.Digit

/-!
# Scanning markup

A scan takes something off the front of a text, or it fails and with it the whole reading. The
module holds the scans that every part of a document shares: white space, names, quoted literals and
references.
-/

namespace MessageCatalog
namespace Markup

/-- A scan takes a value off the front of a text, or fails. -/
abbrev Scan (α : Type) : Type :=
  StateT Text Option α

/-- A reference to a character or to an entity. -/
inductive Reference where
  | character (c : Char)
  | entity (name : Text)
deriving DecidableEq, Repr

namespace Scan

/-- The text that is left, nothing being taken. -/
def rest : Scan Text :=
  get

/-- Takes a text if it comes next, and tells whether it did. -/
def accepts (t : Text) : Scan Bool := do
  let text ← get
  if t.isPrefixOf text then
    set (text.drop t.length)
    return true
  else return false

/-- Takes a text that must come next. -/
def expect (t : Text) : Scan Unit := do
  unless ← accepts t do failure

/-- Takes the longest run of characters of a class. -/
def span (p : Char → Bool) : Scan Text := do
  let text ← get
  set (text.dropWhile p)
  return text.takeWhile p

/-- Takes white space, and tells whether there was any. -/
def spaces : Scan Bool :=
  return !(← span isSpace).isEmpty

/-- Takes white space that must be there. -/
def needSpaces : Scan Unit := do
  unless ← spaces do failure

/-- Takes a name without a colon. -/
def name : Scan Text := do
  let text ← get
  match text with
  | c :: _ => if isNameStart c then span isNameChar else failure
  | [] => failure

/-- Takes a name with at most one colon. -/
def qualifiedName : Scan Text := do
  let first ← name
  if ← accepts [':'] then return first ++ ':' :: (← name) else return first

/-- Takes a non-empty run of name characters and colons. -/
def nameToken : Scan Text := do
  let token ← span fun c => isNameChar c || c = ':'
  if token.isEmpty then failure else return token

/-- The parts of a text before and after the first occurrence of `stop`. -/
def splitAt (stop : Text) : Text → Option (Text × Text)
  | [] => none
  | c :: t =>
      if stop.isPrefixOf (c :: t) then some ([], (c :: t).drop stop.length)
      else (splitAt stop t).map fun (before, after) => (c :: before, after)

/-- Takes everything up to and including the first occurrence of `stop`. -/
def upTo (stop : Text) : Scan Text := do
  match splitAt stop (← get) with
  | some (before, after) =>
      set after
      return before
  | none => failure

/-- Takes a literal between quotes of either kind. -/
def quoted : Scan Text := do
  if ← accepts ['"'] then upTo ['"'] else if ← accepts ['\''] then upTo ['\''] else failure

/-- The number that digits of a base denote. -/
def number? (base : Nat) (digits : Text) : Option Nat :=
  if digits.isEmpty then none
  else digits.foldlM (fun n c => (Text.digitOf? base c).map (base * n + ·)) 0

/-- Takes what follows the ampersand of a reference. -/
def reference : Scan Reference := do
  if ← accepts ['#'] then
    let base := if ← accepts ['x'] then 16 else 10
    let some code := number? base (← upTo [';']) | failure
    if code.isValidChar ∧ isLegal (Char.ofNat code) then return .character (Char.ofNat code)
    else failure
  else
    let entity ← name
    expect [';']
    return .entity entity

/-- Takes the rest of a comment behind its opening; two hyphens may only stand at its end. -/
def comment : Scan Text := do
  let text ← upTo ['-', '-']
  expect ['>']
  return text

/-- Takes the rest of a processing instruction behind its opening. The target that the document
declaration uses is reserved in every spelling. -/
def instruction : Scan Unit := do
  let target ← name
  if Text.asciiLowercase target = ['x', 'm', 'l'] then failure
  if ← accepts ['?', '>'] then return ()
  needSpaces
  let _ ← upTo ['?', '>']

/-- Takes white space, comments and processing instructions; `fuel` bounds their number. -/
def miscellany : Nat → Scan Unit
  | 0 => failure
  | fuel + 1 => do
      let _ ← spaces
      if ← accepts "<!--" then
        let _ ← comment
        miscellany fuel
      else if ← accepts "<?" then
        instruction
        miscellany fuel
      else return ()

end Scan

/-- The character that a predefined entity stands for. -/
def predefined? (name : Text) : Option Char :=
  [("lt".toList, '<'), ("gt".toList, '>'), ("amp".toList, '&'), ("quot".toList, '"'),
    ("apos".toList, '\'')].lookup name

end Markup
end MessageCatalog
