import MessageCatalog.Binary64.Basic
import MessageCatalog.Text.Blank
import MessageCatalog.Text.Digit
import MessageCatalog.Text.Lowercase
import MessageCatalog.Yaml.Failure

/-!
# Numbers in documents

Which plain scalars are numbers, and which numbers they are. Integers are binary, octal, decimal,
hexadecimal or sexagesimal; a binary floating-point number needs a point and, in its exponent, a sign.
Underscores may stand between digits. A scalar that is tagged as a number need not have the form of a
plain one: then white space around it, both signs and digits of every script are read.
-/

namespace MessageCatalog
namespace Yaml
namespace Number

/-- A digit or an underscore. -/
def isDigitOrLow (c : Char) : Bool :=
  c.isDigit || c = '_'

/-- A digit of a base of at most sixteen or an underscore. -/
def isDigitOf (base : Nat) (c : Char) : Bool :=
  c = '_' || ((Text.digitOf? base c).isSome)

/-- The text without a sign. -/
def unsigned : Text → Text
  | '-' :: t => t
  | '+' :: t => t
  | t => t

/-- The text is not empty and has only characters of a class. -/
def isRun (p : Char → Bool) (t : Text) : Bool :=
  !t.isEmpty && t.all p

/-- A sexagesimal digit in decimal notation. -/
def isSexagesimal : Text → Bool
  | [c] => c.isDigit
  | [b, c] => '0' ≤ b && b ≤ '5' && c.isDigit
  | _ => false

/-- The form of a plain integer, its sign apart. -/
def isMagnitude (t : Text) : Bool :=
  match t with
  | ['0'] => true
  | '0' :: 'b' :: digits => isRun (isDigitOf 2) digits
  | '0' :: 'x' :: digits => isRun (isDigitOf 16) digits
  | '0' :: digits => isRun (isDigitOf 8) digits
  | _ =>
      match t.splitOn ':' with
      | first :: places =>
          isRun isDigitOrLow first && first.head? ≠ some '_' && places.all isSexagesimal
      | [] => false

/-- The form of a plain integer. -/
def isInteger (t : Text) : Bool :=
  isMagnitude (unsigned t)

/-- Nothing or an exponent with a sign. -/
def isExponent : Text → Bool
  | [] => true
  | mark :: sign :: digits =>
      (mark = 'e' || mark = 'E') && (sign = '-' || sign = '+') && isRun Char.isDigit digits
  | _ => false

/-- A fraction behind its point, with an exponent perhaps. -/
def isFraction (t : Text) : Bool :=
  isExponent (t.dropWhile isDigitOrLow)

/-- The form of a plain number with a point, its sign apart. -/
def isPointed (t : Text) : Bool :=
  match t.cut '.' with
  | some (before, after) =>
      match before.splitOn ':' with
      | [whole] => isRun isDigitOrLow whole && whole.head? ≠ some '_' && isFraction after
      | whole :: places =>
          isRun isDigitOrLow whole && whole.head? ≠ some '_' && places.all isSexagesimal
            && after.all isDigitOrLow
      | [] => false
  | none => false

/-- The spellings of infinity and of what is not a number. -/
def specials : List Text := [".inf", ".Inf", ".INF"]

/-- The spellings of what is not a number. -/
def noNumbers : List Text := [".nan", ".NaN", ".NAN"]

/-- The form of a plain floating-point number. A number that starts with its point has no sign. -/
def isFloat (t : Text) : Bool :=
  noNumbers.contains t || specials.contains (unsigned t) || isPointed (unsigned t)
    || (match t with
      | '.' :: c :: rest => c.isDigit && isFraction rest
      | _ => false)

/-- The value of a digit of any script, or of a letter as a digit, in a base of at most sixteen. -/
def digitValue? (base : Nat) (c : Char) : Option Nat :=
  match Text.digitValue? c with
  | some n => if n < base then some n else none
  | none => Text.digitOf? base c

/-- Drops what tells the base from the front of digits: a zero and the letter of the base. -/
def withoutBaseMark (base : Nat) (digits : Text) : Text :=
  match digits with
  | '0' :: c :: rest =>
      if [(2, 'b'), (8, 'o'), (16, 'x')].contains (base, c.toLower) then rest else digits
  | _ => digits

/-- The integer that digits in a base denote, with white space and a sign around them. -/
def integerIn (base : Nat) (t : Text) : Except Failure Int :=
  let stripped := t.strip
  let digits := withoutBaseMark base (unsigned stripped)
  let run := digits.takeWhile fun c => (digitValue? base c).isSome
  if base = 10 ∧ Text.maxDigits < run.length then .error .numberTooLong
  else if run.isEmpty ∨ run.length ≠ digits.length then .error (.wrongInteger base t)
  else
    let n : Nat := run.foldl (fun n c => base * n + (digitValue? base c).getD 0) 0
    .ok (if stripped.head? = some '-' then -n else n)

/-- A sign in front of a number, and what follows it. -/
def signOf : Text → Bool × Text
  | '-' :: t => (true, t)
  | '+' :: t => (false, t)
  | t => (false, t)

/-- The integer that a scalar denotes, its sign apart. -/
def magnitude (t : Text) : Except Failure Int :=
  match t with
  | [] => .error .emptyNumber
  | ['0'] => .ok 0
  | '0' :: 'b' :: digits => integerIn 2 digits
  | '0' :: 'x' :: digits => integerIn 16 digits
  | '0' :: _ => integerIn 8 t
  | _ =>
      if t.contains ':' then
        return (← (t.splitOn ':').mapM (integerIn 10)).foldl (60 * · + ·) 0
      else integerIn 10 t

/-- The integer that a scalar denotes. -/
def integer (t : Text) : Except Failure Int := do
  let digits := t.filter (· ≠ '_')
  if digits.isEmpty then throw .emptyNumber
  let (negative, rest) := signOf digits
  let n ← magnitude rest
  return if negative then -n else n

/-- The number that decimal digits of any script with an optional point and exponent denote. -/
def decimal? (negative : Bool) (t : Text) : Option Binary64 :=
  let whole := t.takeWhile Text.isDigit
  let rest := t.drop whole.length
  let fraction :=
    match rest with
    | '.' :: rest => rest.takeWhile Text.isDigit
    | _ => []
  let rest :=
    match rest with
    | '.' :: rest => rest.drop fraction.length
    | rest => rest
  let digits := whole ++ fraction
  if digits.isEmpty then none
  else
    let result (exponent : Int) :=
      Binary64.ofDecimal negative (Text.digitsValue digits) (exponent - fraction.length)
    match rest with
    | [] => some (result 0)
    | mark :: rest =>
        let (isNegative, exponent) := signOf rest
        if (mark = 'e' ∨ mark = 'E') ∧ isRun Text.isDigit exponent then
          let n : Int := Text.digitsValue exponent
          some (result (if isNegative then -n else n))
        else none

/-- The number that a text in lower case denotes, with white space and a sign around it. -/
def floatIn (t : Text) : Except Failure Binary64 :=
  let (negative, rest) := signOf t.strip
  if (["inf", "infinity"] : List Text).contains rest then .ok (.infinite negative)
  else if rest = "nan".toList then .ok .notANumber
  else
    match decimal? negative rest with
    | some x => .ok x
    | none => .error (.wrongNumber t)

/-- The sum of sexagesimal digits, the last of them first, each times its power of sixty. -/
def sexagesimalSum (digits : List Binary64) : Binary64 :=
  (digits.foldl (fun (sum, base) digit =>
    (Binary64.add sum (Binary64.mul digit (Binary64.ofNat base)), 60 * base))
    (Binary64.zero false, 1)).1

/-- The floating-point number that a scalar denotes. -/
def float (t : Text) : Except Failure Binary64 := do
  let digits := Text.lowercase (t.filter (· ≠ '_'))
  if digits.isEmpty then throw .emptyNumber
  let (negative, rest) := signOf digits
  if rest = ".nan".toList then return .notANumber
  let x ←
    if rest = ".inf".toList then pure (.infinite false)
    else if rest.contains ':' then
      pure (sexagesimalSum (← (rest.splitOn ':').mapM floatIn).reverse)
    else floatIn rest
  return if negative then x.negated else x

end Number
end Yaml
end MessageCatalog
