import MessageCatalog.Text.Basic

/-!
# Blank characters

The characters that separate words: Unicode white space together with the four information
separators. Stripping and word splitting are defined by this class alone.
-/

namespace MessageCatalog
namespace Text

/-- The code points of the blank characters, in increasing order. -/
def blankCodes : List Nat :=
  [0x9, 0xA, 0xB, 0xC, 0xD, 0x1C, 0x1D, 0x1E, 0x1F, 0x20, 0x85, 0xA0, 0x1680,
    0x2000, 0x2001, 0x2002, 0x2003, 0x2004, 0x2005, 0x2006, 0x2007, 0x2008, 0x2009, 0x200A,
    0x2028, 0x2029, 0x202F, 0x205F, 0x3000]

/-- A blank character separates words and is dropped at the ends of a stripped text. -/
def isBlank (c : Char) : Bool :=
  blankCodes.contains c.toNat

/-- The text without the blanks at both ends. -/
def strip (t : Text) : Text :=
  dropTrailing isBlank (t.dropWhile isBlank)

/-- Puts one character before a list of words: a blank ends the word, any other character
belongs to the word that follows it directly. -/
def wordsFrom : Text → Text → List Text
  | [], [] => []
  | word, [] => [word.reverse]
  | word, c :: t =>
      if isBlank c then
        (if word.isEmpty then wordsFrom [] t else word.reverse :: wordsFrom [] t)
      else wordsFrom (c :: word) t

/-- The maximal runs of characters that are not blank. -/
def words (t : Text) : List Text :=
  wordsFrom [] t

end Text
end MessageCatalog
