/-!
# Texts

A text is its list of code points, and every length, cut and search of this library counts code
points. Half a surrogate pair is no character, so that every text has a form in UTF-8. The module
holds the searches and cuts that the other modules share; each is recursion on the text itself, so
that a law about it is one induction.
-/

namespace MessageCatalog

/-- A text is the list of its code points. -/
abbrev Text : Type := List Char

instance : Coe String Text := ⟨String.toList⟩

/-- Lists of texts are searched with a comparison that is equality. -/
instance : LawfulBEq Text := List.instLawfulBEq

namespace Text

/-- The text `t` begins with `p`. -/
def startsWith (t p : Text) : Bool :=
  p.isPrefixOf t

/-- The text `t` ends with `p`. -/
def endsWith (t p : Text) : Bool :=
  p.isSuffixOf t

/-- The text without the ending `p`, if it has that ending. -/
def withoutEnding (t p : Text) : Text :=
  if t.endsWith p then t.take (t.length - p.length) else t

/-- The parts before and after the first `c`. -/
def cut (c : Char) : Text → Option (Text × Text)
  | [] => none
  | d :: t =>
      if d = c then some ([], t)
      else (cut c t).map fun (before, after) => (d :: before, after)

/-- The parts before and after the last `c`. -/
def cutLast (c : Char) : Text → Option (Text × Text)
  | [] => none
  | d :: t =>
      match cutLast c t with
      | some (before, after) => some (d :: before, after)
      | none => if d = c then some ([], t) else none

/-- The parts between the occurrences of `c`, empty ones included. -/
def splitOn (c : Char) : Text → List Text
  | [] => [[]]
  | d :: t =>
      if d = c then [] :: splitOn c t
      else
        match splitOn c t with
        | [] => [[d]]
        | part :: parts => (d :: part) :: parts

/-- The parts in order with `separator` between neighbours. -/
def join (separator : Text) (parts : List Text) : Text :=
  separator.intercalate parts

/-- The lines, each followed by a line feed. -/
def unlines (lines : List Text) : Text :=
  lines.flatMap (· ++ ['\n'])

/-- What follows the last occurrence of `p` in a text. -/
def afterLast : Text → Text → Option Text
  | [], p => if p.isEmpty then some [] else none
  | c :: t, p =>
      match afterLast t p with
      | some rest => some rest
      | none => if p.isPrefixOf (c :: t) then some ((c :: t).drop p.length) else none

/-- The text with `new` for each occurrence of `old`, found from left to right without overlap;
the first `skip` characters belong to an occurrence already replaced. -/
def replaceFrom (old new : Text) : Nat → Text → Text
  | _, [] => []
  | skip + 1, _ :: t => replaceFrom old new skip t
  | 0, c :: t =>
      if old.isPrefixOf (c :: t) then new ++ replaceFrom old new (old.length - 1) t
      else c :: replaceFrom old new 0 t

/-- The text with `new` for each occurrence of the non-empty text `old`. -/
def replace (t old new : Text) : Text :=
  replaceFrom old new 0 t

/-- The text with the character `new` for each `old`. -/
def replaceChar (t : Text) (old new : Char) : Text :=
  t.map fun c => if c = old then new else c

/-- The text without its last characters of the class. -/
def dropTrailing (p : Char → Bool) (t : Text) : Text :=
  (t.reverse.dropWhile p).reverse

/-- The text with its ASCII capitals in lower case. It serves to compare with ASCII words: outside
ASCII only the sign of the kelvin has an ASCII letter as its small letter, and no word has a `k`. -/
def asciiLowercase (t : Text) : Text :=
  t.map Char.toLower

/-- The decimal digits of a number. -/
def ofNat (n : Nat) : Text :=
  Nat.toDigits 10 n

/-- The decimal digits of a number after as many zeros as bring them to `width`. -/
def padded (width n : Nat) : Text :=
  let digits := ofNat n
  List.replicate (width - digits.length) '0' ++ digits

/-- The decimal digits of an integer, after a minus sign if it is negative. -/
def ofInt : Int → Text
  | .ofNat n => ofNat n
  | .negSucc n => '-' :: ofNat (n + 1)

end Text

end MessageCatalog
