import MessageCatalog.Bytes
import MessageCatalog.Markup.CodePage
import MessageCatalog.Markup.Scan

/-!
# Encodings of markup documents

A document starts with a byte order mark, or its first two bytes show whether its characters take
two bytes. Its declaration may then name an encoding with characters of the same width. Reading the
bytes gives the text of the document, without byte order mark and with its declaration.
-/

namespace MessageCatalog
namespace Markup

/-- Why a document cannot be read. -/
inductive MarkupError where
  /-- The document is not well formed, or in an encoding in which none is read. -/
  | malformed
  /-- The document names an encoding that is not known, or one whose characters are not single
  bytes. -/
  | unknownEncoding (name : Text)
deriving DecidableEq, Repr

/-- What the declaration of a document says. -/
structure Declaration where
  encoding : Option Text
  standalone : Bool
deriving DecidableEq, Repr

namespace Scan

/-- A character in the value of the declaration. -/
def isDeclarationChar (c : Char) : Bool :=
  c.isAlphanum || c = '.' || c = '-' || c = '_'

/-- Takes the value of a pseudo-attribute behind its name. -/
def pseudoValue : Scan Text := do
  let _ ← spaces
  expect ['=']
  let _ ← spaces
  let value ← quoted
  if value.all isDeclarationChar then return value else failure

/-- Takes the declaration of a document, if there is one. -/
def declaration : Scan Declaration := do
  let text ← rest
  let declared :=
    match text with
    | '<' :: '?' :: 'x' :: 'm' :: 'l' :: c :: _ => isSpace c || c = '?'
    | _ => false
  if !declared then return ⟨none, false⟩
  expect "<?xml"
  needSpaces
  expect "version"
  let _ ← pseudoValue
  let spaced ← spaces
  let encoding ←
    if ← accepts "encoding" then
      unless spaced do failure
      let value ← pseudoValue
      match value with
      | c :: _ => if c.isAlpha then pure (some value) else failure
      | [] => failure
    else pure none
  let spaced' ← spaces
  let standalone ←
    if ← accepts "standalone" then
      unless spaced' || (spaced && encoding.isNone) do failure
      let value ← pseudoValue
      if value = "yes".toList then pure true
      else if value = "no".toList then pure false
      else failure
    else pure false
  let _ ← spaces
  expect "?>"
  return ⟨encoding, standalone⟩

end Scan

namespace Encoding

/-- How wide the characters of a document are and in which order their bytes come. -/
inductive Width where
  | bytes
  | pairsHighFirst
  | pairsLowFirst
deriving DecidableEq, Repr

/-- The width that the first bytes show, and the bytes behind a byte order mark. -/
def detect : Bytes → Width × Bytes
  | 0xFE :: 0xFF :: rest => (.pairsHighFirst, rest)
  | 0xFF :: 0xFE :: rest => (.pairsLowFirst, rest)
  | 0xEF :: 0xBB :: 0xBF :: rest => (.bytes, rest)
  | 0 :: b :: rest => (.pairsHighFirst, 0 :: b :: rest)
  | a :: 0 :: rest => (.pairsLowFirst, a :: 0 :: rest)
  | bytes => (.bytes, bytes)

/-- The two-byte units of the bytes. -/
def units (lowFirst : Bool) : Bytes → Option (List Nat)
  | [] => some []
  | [_] => none
  | a :: b :: rest =>
      let unit := if lowFirst then b.toNat * 256 + a.toNat else a.toNat * 256 + b.toNat
      (unit :: ·) <$> units lowFirst rest

/-- The text of two-byte units, in which a pair of surrogates is one character. -/
def ofUnits : List Nat → Option Text
  | [] => some []
  | [unit] => if unit.isValidChar then some [Char.ofNat unit] else none
  | unit :: low :: rest =>
      if unit.isValidChar then (Char.ofNat unit :: ·) <$> ofUnits (low :: rest)
      else if unit < 0xDC00 ∧ 0xDC00 ≤ low ∧ low < 0xE000 then
        (Char.ofNat (0x10000 + (unit - 0xD800) * 0x400 + (low - 0xDC00)) :: ·) <$> ofUnits rest
      else none

/-- An encoding that is known by its name. -/
inductive Named where
  | utf8
  | single (page : CodePage)
  /-- An encoding of two-byte units, which cannot be declared in single bytes. -/
  | pairs
  /-- An encoding of single bytes in which no document is read. -/
  | refused

/-- The encodings by their standard names, in lower case. -/
def standard : List (String × Named) :=
  [("utf-8", .utf8), ("utf-16", .pairs), ("utf-16be", .pairs), ("utf-16le", .pairs),
    ("iso-8859-1", .single .latin), ("us-ascii", .single .ascii)]

/-- The encoding with another name: its parts between hyphens and low lines are looked up with a low
line between them. UTF-8 under another name than its standard one is read as far as it is ASCII. -/
def other? (name : Text) : Option Named :=
  let parts := ((name.map fun c => if c = '-' then '_' else c).splitOn '_').filter (· ≠ [])
  let joined := Text.join ['_'] parts
  ((CodePage.find? joined).map .single).or
    (if CodePage.isRefused joined then some .refused else none)

/-- The encoding with a name, in any case. -/
def ofName? (name : Text) : Option Named :=
  let lower := Text.asciiLowercase name
  ((standard.find? (·.1.toList = lower)).map (·.2)).or (other? lower)

/-- The declared encoding of a document of two-byte units fits its byte order. -/
def fitsPairs (lowFirst : Bool) (name : Text) : Bool :=
  let lower := Text.asciiLowercase name
  lower = "utf-16".toList || lower = (if lowFirst then "utf-16le" else "utf-16be").toList

/-- The text of a document of two-byte units. -/
def readPairs (lowFirst : Bool) (bytes : Bytes) : Except MarkupError Text :=
  match (units lowFirst bytes).bind ofUnits with
  | none => .error .malformed
  | some text =>
      match Scan.declaration.run text with
      | none => .error .malformed
      | some (⟨none, _⟩, _) => .ok text
      | some (⟨some name, _⟩, _) =>
          if fitsPairs lowFirst name then .ok text
          else if (ofName? name).isSome then .error .malformed
          else .error (.unknownEncoding name)

/-- The text of a document of single bytes. -/
def readBytes (bytes : Bytes) : Except MarkupError Text :=
  let ofOption : Option Text → Except MarkupError Text
    | some text => .ok text
    | none => .error .malformed
  match Scan.declaration.run (bytes.map fun b => Char.ofNat b.toNat) with
  | none => .error .malformed
  | some (⟨none, _⟩, _) => ofOption bytes.utf8?
  | some (⟨some name, _⟩, _) =>
      match ofName? name with
      | some .utf8 => ofOption bytes.utf8?
      | some (.single page) => ofOption (bytes.mapM page.char)
      | some .pairs => .error .malformed
      | some .refused => .error .malformed
      | none => .error (.unknownEncoding name)

/-- The text of a document, with its declaration. -/
def read (bytes : Bytes) : Except MarkupError Text :=
  match detect bytes with
  | (.bytes, rest) => readBytes rest
  | (.pairsHighFirst, rest) => readPairs false rest
  | (.pairsLowFirst, rest) => readPairs true rest

end Encoding
end Markup
end MessageCatalog
