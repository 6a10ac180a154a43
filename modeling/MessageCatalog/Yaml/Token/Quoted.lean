import MessageCatalog.Yaml.Token.Property

/-!
# Quoted scalars

A scalar between quotes may go over several lines. White space around the end of a line is dropped; a
single end of a line becomes a blank, and of several all but the first are kept. Between double quotes
a backslash escapes characters and ends of lines; between single quotes only the quote itself is
written twice.
-/

namespace MessageCatalog
namespace Yaml
namespace Scan

/-- The kinds of quotes. -/
inductive Quote where
  | single
  | double
deriving DecidableEq, Repr

/-- The character of a kind of quotes. -/
def Quote.char : Quote → Char
  | .single => '\''
  | .double => '"'

/-- The characters that a backslash and one more character stand for. -/
def escapes : List (Char × Char) :=
  [('0', '\x00'), ('a', '\x07'), ('b', '\x08'), ('t', '\t'), ('\t', '\t'), ('n', '\n'),
    ('v', '\x0B'), ('f', '\x0C'), ('r', '\r'), ('e', '\x1B'), (' ', ' '), ('"', '"'), ('\\', '\\'),
    ('/', '/'), ('N', '\x85'), ('_', '\xA0'), ('L', '\u2028'), ('P', '\u2029')]

/-- The number of hexadecimal digits behind a backslash and one more character. -/
def escapeLengths : List (Char × Nat) :=
  [('x', 2), ('u', 4), ('U', 8)]

/-- The character of a code point. Half a surrogate pair, which no text contains, is shown by the
replacement character. -/
def characterOf (code : Nat) : Char :=
  if code.isValidChar then Char.ofNat code else '\uFFFD'

/-- The greatest code point. -/
def lastCode : Nat := 0x10FFFF

/-- The greatest number in a signed word of 32 bits. -/
def lastSignedWord : Nat := 0x7FFFFFFF

/-- Takes the end of a line, folding: the kept ends of lines follow it. No document may start or end
within quotes. -/
def innerBreaks : Nat → Scan Text
  | 0 => fail
  | fuel + 1 => do
      require (!(← get).atSeparator)
      let _ ← span fun c => c = ' ' || c = '\t'
      let line ← lineBreak
      if line.isEmpty then return []
      return line ++ (← innerBreaks fuel)

/-- What the end of a line and the kept ones behind it become. -/
def folded (line breaks : Text) : Text :=
  if line ≠ ['\n'] then line ++ breaks else if breaks.isEmpty then [' '] else breaks

/-- Takes what follows a backslash between double quotes. -/
def escape : Scan Text := do
  let some c ← next | fail
  match escapes.lookup c, escapeLengths.lookup c with
  | some character, _ => do
      drop
      return [character]
  | none, some length => do
      drop
      let code ← hexDigits length
      if lastSignedWord < code then throw .oversizedCharacter
      if lastCode < code then throw .unknownCharacter
      return [characterOf code]
  | none, none => do
      require (isBreak c)
      let _ ← lineBreak
      innerBreaks (← fuel)

/-- The characters that end a run of literal characters between quotes. -/
def isSpecial (c : Char) : Bool :=
  c = '\'' || c = '"' || c = '\\' || endsToken (some c)

/-- Takes characters other than white space between quotes. -/
def quotedWord (quote : Quote) : Nat → Scan Text
  | 0 => return []
  | fuel + 1 => do
      let literal ← span (!isSpecial ·)
      let k ← get
      match quote, k.peek 0 with
      | .single, some '\'' =>
          if k.peek 1 = some '\'' then
            let _ ← take 2
            return literal ++ '\'' :: (← quotedWord quote fuel)
          else return literal
      | .double, some '\\' =>
          drop
          let escaped ← escape
          return literal ++ escaped ++ (← quotedWord quote fuel)
      | .double, some '\'' =>
          drop
          return literal ++ '\'' :: (← quotedWord quote fuel)
      | .single, some c =>
          if c = '"' ∨ c = '\\' then
            drop
            return literal ++ c :: (← quotedWord quote fuel)
          else return literal
      | _, _ => return literal

/-- Takes white space between quotes. -/
def quotedSpace : Scan Text := do
  let space ← span fun c => c = ' ' || c = '\t'
  require (← next).isSome
  let line ← lineBreak
  if line.isEmpty then return space
  return folded line (← innerBreaks (← fuel))

/-- Takes the words of a quoted scalar and the white space between them, and the closing quote. -/
def quotedRest (quote : Quote) : Nat → Scan Text
  | 0 => fail
  | fuel + 1 => do
      if (← next) = some quote.char then
        drop
        return []
      let space ← quotedSpace
      let word ← quotedWord quote (← Scan.fuel)
      return space ++ word ++ (← quotedRest quote fuel)

/-- Takes a quoted scalar. -/
def quoted (quote : Quote) : Scan Token := do
  drop
  let word ← quotedWord quote (← fuel)
  return .scalar false (word ++ (← quotedRest quote (← fuel)))

end Scan
end Yaml
end MessageCatalog
