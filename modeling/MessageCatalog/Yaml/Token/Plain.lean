import MessageCatalog.Yaml.Cursor
import MessageCatalog.Yaml.Token.Basic

/-!
# Plain scalars

A plain scalar stands without quotes. It ends before a colon that something may follow, before a
comment, and within brackets before the signs that structure them; it goes on over lines that are
indented further than its collection. Ends of lines are folded as between quotes.
-/

namespace MessageCatalog
namespace Yaml
namespace Scan

/-- The signs that structure collections in brackets. -/
def isFlowSign (c : Char) : Bool :=
  ",[]\x7b\x7d".toList.contains c

/-- A colon before this character separates a key from its value. -/
def endsKey (inFlow : Bool) (next : Option Char) : Bool :=
  endsToken next || (inFlow && (next.map isFlowSign).getD false)

/-- The longest run of characters that belong to a plain scalar. -/
def plainRun (inFlow : Bool) : Text → Text
  | [] => []
  | c :: t =>
      if endsToken (some c) || (c = ':' && endsKey inFlow t.head?)
        || (inFlow && (isFlowSign c || c = '?')) then []
      else c :: plainRun inFlow t

/-- Takes the ends of lines and the blanks between the lines of a plain scalar. Nothing is given if
a document starts or ends there. -/
def plainBreaks : Nat → Scan (Option Text)
  | 0 => return some []
  | fuel + 1 => do
      if (← get).atSeparator then return none
      blanks
      let line ← lineBreak
      if line.isEmpty then return some []
      return (← plainBreaks fuel).map (line ++ ·)

/-- Takes white space behind a part of a plain scalar: what it becomes, empty if the scalar ends
there, and whether the line ended. -/
def plainSpace : Scan (Text × Bool) := do
  let space ← span (· = ' ')
  let line ← lineBreak
  if line.isEmpty then return (space, false)
  match ← plainBreaks (← fuel) with
  | none => return ([], true)
  | some breaks =>
      let text : Text :=
        if line ≠ ['\n'] then line ++ breaks else if breaks.isEmpty then [' '] else breaks
      return (text, true)

/-- Takes the parts of a plain scalar; `before` is the white space before the next part. It gives
their text and whether the line ended behind the last one. -/
def plainParts (inFlow : Bool) (indent : Int) (before : Text) (lineEnded : Bool) :
    Nat → Scan (Text × Bool)
  | 0 => return ([], lineEnded)
  | fuel + 1 => do
      if (← next) = some '#' then return ([], lineEnded)
      let part ← take (plainRun inFlow (← get).rest).length
      if part.isEmpty then return ([], lineEnded)
      let (space, lineEnded) ← plainSpace
      let k ← get
      if space.isEmpty || k.peek 0 = some '#' || (!inFlow && k.column < indent + 1) then
        return (before ++ part, lineEnded)
      let (text, lineEnded) ← plainParts inFlow indent space lineEnded fuel
      return (before ++ part ++ text, lineEnded)

/-- Takes a plain scalar of a collection with the given indentation, and tells whether the line ended
behind it. -/
def plain (inFlow : Bool) (indent : Int) : Scan (Token × Bool) := do
  let (text, lineEnded) ← plainParts inFlow indent [] false (← fuel)
  return (.scalar true text, lineEnded)

end Scan
end Yaml
end MessageCatalog
