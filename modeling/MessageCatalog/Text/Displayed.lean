import MessageCatalog.Text.Printable

/-!
# Displayed texts

How a message shows a text whose ends and invisible characters matter: between quotes, with
characters that are not printable given by number. Single quotes are used unless the text contains
some and no double quotes.
-/

namespace MessageCatalog
namespace Text

/-- The last `width` hexadecimal digits of a number. -/
def hexadecimal : Nat → Nat → Text
  | 0, _ => []
  | width + 1, n => hexadecimal width (n / 16) ++ [Nat.digitChar (n % 16)]

/-- How a character is shown between quotes of the kind `quote`. -/
def displayedChar (quote c : Char) : Text :=
  if c = quote ∨ c = '\\' then ['\\', c]
  else if c = '\t' then ['\\', 't']
  else if c = '\n' then ['\\', 'n']
  else if c = '\r' then ['\\', 'r']
  else if isPrintable c then [c]
  else if c.toNat < 0x100 then '\\' :: 'x' :: hexadecimal 2 c.toNat
  else if c.toNat < 0x10000 then '\\' :: 'u' :: hexadecimal 4 c.toNat
  else '\\' :: 'U' :: hexadecimal 8 c.toNat

/-- The quote that surrounds a displayed text. -/
def displayQuote (t : Text) : Char :=
  if t.contains '\'' && !t.contains '"' then '"' else '\''

/-- The text between quotes, with every unprintable character given by number. -/
def displayed (t : Text) : Text :=
  let quote := displayQuote t
  quote :: t.flatMap (displayedChar quote) ++ [quote]

end Text
end MessageCatalog
