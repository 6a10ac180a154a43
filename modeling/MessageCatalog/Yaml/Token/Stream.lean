import MessageCatalog.Yaml.Token.Block
import MessageCatalog.Yaml.Token.Plain
import MessageCatalog.Yaml.Token.Quoted

/-!
# Token streams

The tokens of a document in order. Whether a node is a key shows only at the colon behind it, so the
places at which keys may have started are remembered, one for each depth of brackets; at a colon the
key token is put back at such a place, and before it the start of a mapping if the key is indented
further than the collections that are open. A key stands on one line and is not longer than 1024
characters; one that has to be a key and is followed by no colon makes the document malformed.
-/

namespace MessageCatalog
namespace Yaml

/-- A place at which a key may have started. -/
structure KeyCandidate where
  /-- The number of tokens before the place. -/
  position : Nat
  /-- Nothing but a key can stand here. -/
  required : Bool
  index : Nat
  line : Nat
  column : Nat
deriving DecidableEq, Repr

/-- A document that is partly read. -/
structure TokenStream where
  cursor : Cursor
  /-- The tokens so far, the latest one first. -/
  tokens : List Token
  /-- The column of the innermost collection that indentation delimits. -/
  indent : Int
  /-- The columns of the collections around it. -/
  outer : List Int
  /-- The number of open brackets. -/
  depth : Nat
  /-- A key may start at the next token. -/
  keyAllowed : Bool
  /-- The places at which keys may have started, by the depth of brackets. -/
  candidates : List (Nat × KeyCandidate)
deriving DecidableEq, Repr

namespace TokenStream

/-- The longest key, in characters. -/
def maxKeyLength : Nat := 1024

/-- The column of a document, outside of all collections. -/
def noIndent : Int := -1

/-- Nothing is read yet. -/
def start (t : Text) : TokenStream :=
  ⟨.start t, [], noIndent, [], 0, true, []⟩

/-- A step of reading tokens; the tokens before a failure stay. -/
abbrev Step (α : Type) : Type :=
  ExceptT Failure (StateM TokenStream) α

/-- Scans at the cursor. -/
def scan {α : Type} (s : Scan α) : Step α := do
  match s.run (← get).cursor with
  | .ok (a, cursor) => do
      modify ({ · with cursor })
      return a
  | .error e => throw e

/-- Adds a token. -/
def push (token : Token) : Step Unit :=
  modify fun s => { s with tokens := token :: s.tokens }

/-- Adds a token behind the first `position` tokens. -/
def insertAt (position : Nat) (token : Token) : Step Unit :=
  modify fun s =>
    let later := s.tokens.length - position
    { s with tokens := s.tokens.take later ++ token :: s.tokens.drop later }

/-- Allows or forbids a key at the next token. -/
def allowKey (allowed : Bool) : Step Unit :=
  modify ({ · with keyAllowed := allowed })

/-- Forgets the places from which no key can reach the cursor. -/
def dropStale : Step Unit := do
  let s ← get
  let (stale, fresh) := s.candidates.partition fun (_, c) =>
    c.line ≠ s.cursor.line || c.index + maxKeyLength < s.cursor.index
  if stale.any (·.2.required) then throw .malformed
  set { s with candidates := fresh }

/-- Forgets the place of the present depth, where no key has started. -/
def dropCandidate : Step Unit := do
  let s ← get
  if ((s.candidates.lookup s.depth).map (·.required)).getD false then throw .malformed
  set { s with candidates := s.candidates.filter (·.1 ≠ s.depth) }

/-- Remembers that a key may start here. -/
def saveCandidate : Step Unit := do
  if (← get).keyAllowed then
    dropCandidate
    modify fun s =>
      let k := s.cursor
      let required := s.depth = 0 && s.indent = k.column
      let candidate := ⟨s.tokens.length, required, k.index, k.line, k.column⟩
      { s with candidates := (s.depth, candidate) :: s.candidates }

/-- Ends the collections that are indented further than a column: what is left open, and how many
have ended. -/
def unwound (column : Int) : Int → List Int → Int × List Int × Nat
  | indent, [] => (indent, [], 0)
  | indent, next :: outer =>
      if column < indent then
        let (indent, outer, ended) := unwound column next outer
        (indent, outer, ended + 1)
      else (indent, next :: outer, 0)

/-- Ends the collections that are indented further than a column; within brackets indentation does
not count. -/
def unwind (column : Int) : Step Unit :=
  modify fun s =>
    if s.depth = 0 then
      let (indent, outer, ended) := unwound column s.indent s.outer
      { s with indent, outer, tokens := List.replicate ended .blockEnd ++ s.tokens }
    else s

/-- Opens a collection at a column if it is indented further than the open ones, and tells whether it
did. -/
def indentTo (column : Int) : Step Bool := do
  let s ← get
  if s.indent < column then
    set { s with indent := column, outer := s.indent :: s.outer }
    return true
  else return false

/-- Takes blanks, comments and ends of lines, and tells whether a line ended. -/
def skipSpace : Nat → Scan Bool
  | 0 => return false
  | fuel + 1 => do
      Scan.blanks
      Scan.comment
      if (← Scan.lineBreak).isEmpty then return false
      let _ ← skipSpace fuel
      return true

/-- Goes to the next token. -/
def toNextToken : Step Unit := do
  let lineEnded ← scan do
    let k ← get
    if k.index = 0 ∧ k.peek 0 = some byteOrderMark then Scan.drop
    skipSpace (← Scan.fuel)
  let s ← get
  if lineEnded && s.depth = 0 then allowKey true

/-- Adds a token that ends all collections and takes its characters. -/
def pushMark (token : Token) (take : Scan Unit) : Step Unit := do
  unwind noIndent
  dropCandidate
  allowKey false
  scan take
  push token

/-- Opens a bracket. -/
def openBracket (token : Token) : Step Unit := do
  saveCandidate
  modify fun s => { s with depth := s.depth + 1 }
  allowKey true
  scan Scan.drop
  push token

/-- Closes a bracket. -/
def closeBracket (token : Token) : Step Unit := do
  dropCandidate
  if (← get).depth = 0 then throw .malformed
  modify fun s => { s with depth := s.depth - 1 }
  allowKey false
  scan Scan.drop
  push token

/-- Opens a collection at the cursor where indentation counts; there a key must be allowed. -/
def openHere (collection : Token) : Step Unit := do
  let s ← get
  if s.depth = 0 then
    if !s.keyAllowed then throw .malformed
    if ← indentTo s.cursor.column then push collection

/-- Takes the sign of an item of a sequence. -/
def blockEntry : Step Unit := do
  openHere .blockSequenceStart
  allowKey true
  dropCandidate
  scan Scan.drop
  push .blockEntry

/-- Takes the sign of a key. -/
def key : Step Unit := do
  openHere .blockMappingStart
  allowKey ((← get).depth = 0)
  dropCandidate
  scan Scan.drop
  push .key

/-- Takes the sign of a value. The node before it is a key if a key may have started there. -/
def value : Step Unit := do
  let s ← get
  match s.candidates.lookup s.depth with
  | some candidate =>
      set { s with candidates := s.candidates.filter (·.1 ≠ s.depth) }
      insertAt candidate.position .key
      if s.depth = 0 then
        if ← indentTo candidate.column then insertAt candidate.position .blockMappingStart
      allowKey false
  | none =>
      openHere .blockMappingStart
      allowKey (s.depth = 0)
      dropCandidate
  scan Scan.drop
  push .value

/-- Takes a part of a node with which a key may start. -/
def nodePart (part : Scan Token) : Step Unit := do
  saveCandidate
  allowKey false
  push (← scan part)

/-- Takes a plain scalar. -/
def plain : Step Unit := do
  saveCandidate
  let s ← get
  let (token, lineEnded) ← scan (Scan.plain (s.depth ≠ 0) s.indent)
  allowKey lineEnded
  push token

/-- Takes a block scalar. -/
def block (isFolded : Bool) : Step Unit := do
  allowKey true
  dropCandidate
  push (← scan (Scan.block isFolded (← get).indent))

/-- The signs with which no plain scalar starts unless something stands directly behind them. -/
def indicators : Text := "-?:,[]\x7b\x7d#&*!|>'\"%@\x60"

/-- A plain scalar starts here. -/
def startsPlain (inFlow : Bool) (c : Char) (next : Option Char) : Bool :=
  !(indicators.contains c || endsToken (some c))
    || (!endsToken next && (c = '-' || (!inFlow && (c = '?' || c = ':'))))

/-- Takes a token that starts with a character. -/
def token (c : Char) (k : Cursor) (inFlow : Bool) : Step Unit :=
  let next := k.peek 1
  let separates := inFlow || endsToken next
  if c = '%' ∧ k.column = 0 then do
    unwind noIndent
    dropCandidate
    allowKey false
    push (← scan Scan.directive)
  else if k.column = 0 && k.atMark '-' then pushMark .documentStart (do let _ ← Scan.take 3)
  else if k.column = 0 && k.atMark '.' then pushMark .documentEnd (do let _ ← Scan.take 3)
  else if c = '[' then openBracket .flowSequenceStart
  else if c = '\x7b' then openBracket .flowMappingStart
  else if c = ']' then closeBracket .flowSequenceEnd
  else if c = '\x7d' then closeBracket .flowMappingEnd
  else if c = ',' then do
    allowKey true
    dropCandidate
    scan Scan.drop
    push .flowEntry
  else if c = '-' && endsToken next then blockEntry
  else if c = '?' && separates then key
  else if c = ':' && separates then value
  else if c = '*' then nodePart (return .reference (← Scan.anchorName))
  else if c = '&' then nodePart (return .anchor (← Scan.anchorName))
  else if c = '!' then nodePart Scan.tag
  else if c = '|' && !inFlow then block false
  else if c = '>' && !inFlow then block true
  else if c = '\'' then nodePart (Scan.quoted .single)
  else if c = '"' then nodePart (Scan.quoted .double)
  else if startsPlain inFlow c next then plain
  else throw .malformed

/-- Takes the next token, and tells whether it was the last one. -/
def step : Step Bool := do
  toNextToken
  dropStale
  let k := (← get).cursor
  unwind k.column
  match k.peek 0 with
  | none => do
      pushMark .streamEnd (return ())
      return true
  | some c => do
      token c k ((← get).depth ≠ 0)
      return false

/-- Takes tokens up to the last one; `fuel` bounds their number. -/
def steps : Nat → Step Unit
  | 0 => throw .malformed
  | fuel + 1 => do
      unless ← step do steps fuel

end TokenStream

/-- The tokens of a document up to a failure, and the failure. -/
structure Tokens where
  tokens : List Token
  failure : Option Failure
deriving DecidableEq, Repr

/-- The tokens of a text. -/
def Tokens.ofText (t : Text) : Tokens :=
  let (result, stream) := (TokenStream.steps (t.length + 1)).run.run (.start t)
  ⟨stream.tokens.reverse,
    match result with
    | .ok () => none
    | .error e => some e⟩

end Yaml
end MessageCatalog
