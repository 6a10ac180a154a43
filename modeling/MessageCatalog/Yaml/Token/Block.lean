import MessageCatalog.Yaml.Cursor
import MessageCatalog.Yaml.Token.Basic

/-!
# Block scalars

A block scalar is the lines below its header that are indented at least as far as its first line that
is not empty, or as far as the header says. A literal one keeps the ends of its lines; a folded one
joins neighbouring lines that do not start with white space. The header says what becomes of the ends
of lines at its end.
-/

namespace MessageCatalog
namespace Yaml
namespace Scan

/-- What becomes of the ends of lines at the end of a block scalar. -/
inductive Chomping where
  /-- One end of a line is kept. -/
  | clip
  /-- None is kept. -/
  | strip
  /-- All are kept. -/
  | keep
deriving DecidableEq, Repr

/-- Takes a sign that tells what becomes of the ends of lines at the end. -/
def chomping : Scan (Option Chomping) := do
  match ← next with
  | some '+' => do drop; return some .keep
  | some '-' => do drop; return some .strip
  | _ => return none

/-- Takes a digit that tells how far the lines are indented, which is not zero. -/
def indentation : Scan (Option Nat) := do
  match ← next with
  | some c =>
      if c.isDigit then do
        require (c ≠ '0')
        drop
        return some (c.toNat - '0'.toNat)
      else return none
  | none => return none

/-- Takes the header behind its first sign: both indicators, in either order. -/
def blockHeader : Scan (Chomping × Option Nat) := do
  let header ←
    match ← chomping with
    | some c => pure (c, ← indentation)
    | none => do
        let width ← indentation
        let c ← if width.isSome then chomping else pure none
        pure (c.getD .clip, width)
  require (endsWord (← next))
  restOfLine
  return header

/-- Takes empty lines and the blanks behind them, and gives the ends of these lines and the greatest
column that blanks reach. -/
def leadingLines : Nat → Scan (Text × Nat)
  | 0 => return ([], 0)
  | fuel + 1 => do
      blanks
      let column := (← get).column
      let line ← lineBreak
      if line.isEmpty then return ([], column)
      let (lines, width) ← leadingLines fuel
      return (line ++ lines, max column width)

/-- Takes blanks up to a column. -/
def blanksTo (column : Nat) : Scan Unit := do
  let k ← get
  let present := (k.rest.takeWhile (· = ' ')).length
  let _ ← take (min present (column - k.column))

/-- Takes empty lines and the blanks up to the given column behind them, and gives the ends of the
lines. -/
def emptyLines (column : Nat) : Nat → Scan Text
  | 0 => return []
  | fuel + 1 => do
      blanksTo column
      let line ← lineBreak
      if line.isEmpty then return []
      return line ++ (← emptyLines column fuel)

/-- A line of the scalar starts here. -/
def atBlockLine (column : Nat) : Scan Bool := do
  let k ← get
  return k.column = column && !k.rest.isEmpty

/-- A blank or a tab comes next. -/
def atSpace : Scan Bool := do
  let c ← next
  return c = some ' ' || c = some '\t'

/-- Takes the lines of the scalar. It gives their text, the end of the last one and the ends of the
empty lines behind it; `before` are the ends of the empty lines before the next line. -/
def blockLines (isFolded : Bool) (column : Nat) (before : Text) :
    Nat → Scan (Text × Text × Text)
  | 0 => return ([], [], before)
  | fuel + 1 => do
      let isIndented ← atSpace
      let line ← span (!isBreak ·)
      let lineEnd ← lineBreak
      let after ← emptyLines column fuel
      if ← atBlockLine column then
        let joins := isFolded && lineEnd == ['\n'] && !isIndented && !(← atSpace)
        let joint : Text := if !joins then lineEnd else if after.isEmpty then [' '] else []
        let (text, last, rest) ← blockLines isFolded column after fuel
        return (before ++ line ++ joint ++ text, last, rest)
      else return (before ++ line, lineEnd, after)

/-- Takes a block scalar of a collection with the given indentation. -/
def block (isFolded : Bool) (indent : Int) : Scan Token := do
  drop
  let (chomp, width) ← blockHeader
  let least := max (indent + 1) 1
  let (column, before) ←
    match width with
    | some width => do
        let column := (least - 1).toNat + width
        pure (column, ← emptyLines column (← fuel))
    | none => do
        let (lines, column) ← leadingLines (← fuel)
        pure (max least.toNat column, lines)
  let (text, last, rest) ←
    if ← atBlockLine column then blockLines isFolded column before (← fuel)
    else pure ([], [], before)
  return .scalar false
    (match chomp with
    | .strip => text
    | .clip => text ++ last
    | .keep => text ++ last ++ rest)

end Scan
end Yaml
end MessageCatalog
