/-!
# Binary floating-point numbers

The numbers of the 64-bit binary format as exact data: a finite number is a natural mantissa times a
power of two. Results of arithmetic are computed exactly and rounded once, to the nearest number of
the format and to an even mantissa between two nearest ones.
-/

namespace MessageCatalog

/-- A number of the 64-bit binary format; a finite one is `mantissa * 2 ^ exponent`. -/
inductive Binary64 where
  | notANumber
  | infinite (negative : Bool)
  | finite (negative : Bool) (mantissa : Nat) (exponent : Int)
deriving DecidableEq, Repr

namespace Binary64

/-- The exponent of the least numbers. -/
def minExponent : Int := -1074

/-- The exponent of the greatest finite numbers. -/
def maxExponent : Int := 971

/-- The power of two with the given exponent. -/
def twoTo (n : Nat) : Nat := Nat.pow 2 n

/-- The power of ten with the given exponent. -/
def tenTo (n : Nat) : Nat := Nat.pow 10 n

/-- Every mantissa is less than this power of two. -/
def mantissaBound : Nat := twoTo 53

/-- The number zero with a sign. -/
def zero (negative : Bool) : Binary64 :=
  .finite negative 0 minExponent

/-- The quotient rounded to a nearest natural number, to the even one between two. -/
def roundedQuotient (n d : Nat) : Nat :=
  let q := n / d
  let r := n % d
  if 2 * r < d then q else if d < 2 * r then q + 1 else q + q % 2

/-- Numerator and denominator of `n / d / 2 ^ e`. -/
def unscaled (n d : Nat) (e : Int) : Nat × Nat :=
  (n * twoTo (-e).toNat, d * twoTo e.toNat)

/-- The number nearest to `n / d`. The binary logarithms of numerator and denominator give its
exponent up to one. -/
def ofQuotient (negative : Bool) (n d : Nat) : Binary64 :=
  if n = 0 then zero negative
  else
    let estimate := max minExponent ((n.log2 : Int) - d.log2 - 53)
    let (n₀, d₀) := unscaled n d estimate
    let exponent := if mantissaBound ≤ n₀ / d₀ then estimate + 1 else estimate
    let (n₁, d₁) := unscaled n d exponent
    let mantissa := roundedQuotient n₁ d₁
    let (mantissa, exponent) :=
      if mantissa = mantissaBound then (mantissaBound / 2, exponent + 1) else (mantissa, exponent)
    if maxExponent < exponent then .infinite negative else .finite negative mantissa exponent

/-- The number nearest to an integer times a power of two. -/
def ofScaled (negativeZero : Bool) (m e : Int) : Binary64 :=
  let (n, d) := unscaled m.natAbs 1 (-e)
  if m = 0 then zero negativeZero else ofQuotient (m < 0) n d

/-- Decimals with their leading digit at or above this place are infinite. -/
def decimalOverflow : Int := 310

/-- Decimals with their leading digit at or below this place are zero. -/
def decimalUnderflow : Int := -330

/-- The number nearest to `digits * 10 ^ exponent`. -/
def ofDecimal (negative : Bool) (digits : Nat) (exponent : Int) : Binary64 :=
  let place := ((Nat.toDigits 10 digits).length : Int) + exponent
  if digits = 0 ∨ place ≤ decimalUnderflow then zero negative
  else if decimalOverflow ≤ place then .infinite negative
  else ofQuotient negative (digits * tenTo exponent.toNat) (tenTo (-exponent).toNat)

/-- The number nearest to a natural number. -/
def ofNat (n : Nat) : Binary64 :=
  ofQuotient false n 1

/-- The number with the other sign. -/
def negated : Binary64 → Binary64
  | .notANumber => .notANumber
  | .infinite negative => .infinite !negative
  | .finite negative m e => .finite (!negative) m e

/-- The mantissa with the sign of its number. -/
def signed (negative : Bool) (m : Nat) : Int :=
  if negative then -(m : Int) else m

/-- The sum of two numbers. -/
def add : Binary64 → Binary64 → Binary64
  | .finite s m e, .finite t n f =>
      let g := min e f
      ofScaled (s && t) (signed s m * twoTo (e - g).toNat + signed t n * twoTo (f - g).toNat) g
  | .infinite s, .infinite t => if s = t then .infinite s else .notANumber
  | .infinite s, .finite .. => .infinite s
  | .finite .., .infinite t => .infinite t
  | .notANumber, _ => .notANumber
  | _, .notANumber => .notANumber

/-- The product of two numbers. -/
def mul : Binary64 → Binary64 → Binary64
  | .finite s m e, .finite t n f =>
      ofScaled (s != t) (signed s m * signed t n) (e + f)
  | .infinite s, .infinite t => .infinite (s != t)
  | .infinite s, .finite t n _ => if n = 0 then .notANumber else .infinite (s != t)
  | .finite s m _, .infinite t => if m = 0 then .notANumber else .infinite (s != t)
  | .notANumber, _ => .notANumber
  | _, .notANumber => .notANumber

/-- The number is the integer `i`. -/
def isInteger (x : Binary64) (i : Int) : Bool :=
  match x with
  | .finite s m e => signed s m * twoTo e.toNat = i * twoTo (-e).toNat
  | _ => false

/-- Two numbers are equal: zeros of both signs are, and nothing equals what is not a number. -/
def same : Binary64 → Binary64 → Bool
  | .notANumber, _ => false
  | .finite _ 0 _, .finite _ 0 _ => true
  | x, y => x = y

end Binary64

end MessageCatalog
