import MessageCatalog.Bytes
import MessageCatalog.Text.Digit
import MessageCatalog.Yaml.Cursor
import MessageCatalog.Yaml.Token.Basic

/-!
# Directives, anchors and tags

The tokens that say something about a document or a node: directives, anchors and references to
them, and tags. A tag is given in full between angle brackets, or by a handle and a suffix in which
bytes may be written as two hexadecimal digits behind a percent sign.
-/

namespace MessageCatalog
namespace Yaml
namespace Scan

/-- A hexadecimal digit. -/
def isHexDigit (c : Char) : Bool :=
  (Text.digitOf? 16 c).isSome

/-- The number that hexadecimal digits denote. -/
def hexValue (digits : Text) : Nat :=
  digits.foldl (fun n c => 16 * n + (Text.digitOf? 16 c).getD 0) 0

/-- Takes exactly `n` hexadecimal digits. -/
def hexDigits (n : Nat) : Scan Nat := do
  let digits := (← get).rest.take n
  require (digits.length = n && digits.all isHexDigit)
  return hexValue (← take n)

/-- Takes the bytes that are written behind percent signs. -/
def escapedBytes : Nat → Scan Bytes
  | 0 => return []
  | fuel + 1 => do
      if (← next) = some '%' then
        drop
        let byte ← hexDigits 2
        return byte.toUInt8 :: (← escapedBytes fuel)
      else return []

/-- The characters of a tag or of what a handle stands for, percent signs apart. -/
def isTagChar (c : Char) : Bool :=
  c.isAlphanum || "-;/?:@&=+$,_.!~*'()[]".toList.contains c

/-- Takes the parts of a tag. -/
def tagParts : Nat → Scan (List Text)
  | 0 => return []
  | fuel + 1 => do
      match ← next with
      | some c =>
          if c = '%' then
            let some part := (← escapedBytes fuel).utf8? | fail
            return part :: (← tagParts fuel)
          else if isTagChar c then
            let part ← span isTagChar
            return part :: (← tagParts fuel)
          else return []
      | none => return []

/-- Takes the text of a tag, which is not empty. -/
def tagText : Scan Text := do
  let parts ← tagParts (← fuel)
  require (!parts.isEmpty)
  return parts.flatten

/-- Takes a handle: an exclamation mark, or two with a name between them. -/
def tagHandle : Scan Text := do
  require ((← next) = some '!')
  drop
  if (← next) = some ' ' then return ['!']
  let name ← span isNameChar
  if (← next) = some '!' then
    drop
    return '!' :: name ++ ['!']
  else fail

/-- An exclamation mark comes in the next word. -/
def hasHandle (t : Text) : Bool :=
  (t.takeWhile fun c => !endsWord (some c)).contains '!'

/-- Takes a tag, which starts with an exclamation mark. -/
def tag : Scan Token := do
  let second := (← get).peek 1
  let token ←
    if second = some '<' then do
      let _ ← take 2
      let suffix ← tagText
      require ((← next) = some '>')
      drop
      pure (Token.tag none suffix)
    else if endsToken second then do
      drop
      pure (Token.tag none ['!'])
    else if hasHandle ((← get).rest.drop 1) then do
      let handle ← tagHandle
      pure (Token.tag (some handle) (← tagText))
    else do
      drop
      pure (Token.tag (some ['!']) (← tagText))
  require (endsWord (← next))
  return token

/-- What may stand directly behind the name of an anchor. -/
def endsAnchor (next : Option Char) : Bool :=
  endsToken next || (next.map ("?:,]\x7d%@\x60".toList.contains ·)).getD false

/-- Takes the sign and the name of an anchor. -/
def anchorName : Scan Text := do
  drop
  let name ← span isNameChar
  require (!name.isEmpty && endsAnchor (← next))
  return name

/-- Takes the major number of a version. -/
def version : Scan Token := do
  blanks
  let major ← number
  require ((← next) = some '.')
  drop
  let _ ← number
  require (endsWord (← next))
  return .version major

/-- Takes a handle and what it stands for. -/
def handle : Scan Token := do
  blanks
  let name ← tagHandle
  require ((← next) = some ' ')
  blanks
  let expansion ← tagText
  require (endsWord (← next))
  return .handle name expansion

/-- Takes a directive, which starts with a percent sign. -/
def directive : Scan Token := do
  drop
  let name ← span isNameChar
  require (!name.isEmpty && endsWord (← next))
  let token ←
    if name = "YAML".toList then version
    else if name = "TAG".toList then handle
    else do
      let _ ← span (!isBreak ·)
      pure .otherDirective
  restOfLine
  return token

end Scan
end Yaml
end MessageCatalog
