import MessageCatalog.Binary64.Basic
import MessageCatalog.Text.Basic

/-!
# Decimal forms of binary numbers

A number is written with the fewest digits that read back to it. The decimals that read back form an
interval around the number that reaches halfway to its neighbours; its ends belong to it exactly if
the mantissa is even. All comparisons are of natural numbers. Of the decimals with the fewest digits
the nearest is written, and between two nearest ones that with the even last digit.
-/

namespace MessageCatalog

/-- The number `digits * 10 ^ exponent`. -/
structure Decimal where
  digits : Nat
  exponent : Int
deriving DecidableEq, Repr

namespace Decimal

open Binary64 (twoTo tenTo)

/-- The order of a decimal and `b * 2 ^ q`. -/
def compareBinary (d : Decimal) (b : Nat) (q : Int) : Ordering :=
  compare (d.digits * tenTo d.exponent.toNat * twoTo (-q).toNat)
    (b * twoTo q.toNat * tenTo (-d.exponent).toNat)

/-- The decimal lies in the interval of `m * 2 ^ e`. The number below a power of two is half as far
away as the number above it, unless it has the least exponent. -/
def readsBack (d : Decimal) (m : Nat) (e : Int) : Bool :=
  let isNarrow := m = Binary64.mantissaBound / 2 ∧ Binary64.minExponent < e
  let low := d.compareBinary (4 * m - (if isNarrow then 1 else 2)) (e - 2)
  let high := d.compareBinary (4 * m + 2) (e - 2)
  if m % 2 = 0 then low ≠ .lt && high ≠ .gt else low = .gt && high = .lt

/-- The number of decimal places of `m * 2 ^ e` before its point, for a positive `m`; zeros behind
the point count as negative places. The binary logarithm gives it up to one. -/
def places (m : Nat) (e : Int) : Int :=
  let estimate := (((m.log2 : Int) + e) * 30103).fdiv 100000
  ([estimate - 1, estimate, estimate + 1].find? fun k =>
    Decimal.compareBinary ⟨1, k⟩ m e = .gt).getD (estimate + 2)

/-- The greatest multiple of a power of ten that is at most `m * 2 ^ e`. -/
def below (m : Nat) (e k : Int) : Decimal :=
  ⟨m * twoTo e.toNat * tenTo (-k).toNat / (twoTo (-e).toNat * tenTo k.toNat), k⟩

/-- The nearer of two neighbouring decimals to `m * 2 ^ e`, the even one of two nearest. -/
def nearer (m : Nat) (e : Int) (d : Decimal) : Decimal :=
  let next : Decimal := ⟨d.digits + 1, d.exponent⟩
  match Decimal.compareBinary ⟨2 * d.digits + 1, d.exponent⟩ (2 * m) e with
  | .lt => next
  | .gt => d
  | .eq => if d.digits % 2 = 0 then d else next

/-- The decimal with the given last place that reads back to `m * 2 ^ e`, if there is one. -/
def onGrid? (m : Nat) (e k : Int) : Option Decimal :=
  let low := below m e k
  let high : Decimal := ⟨low.digits + 1, k⟩
  match low.readsBack m e, high.readsBack m e with
  | true, true => some (nearer m e low)
  | true, false => some low
  | false, true => some high
  | false, false => none

/-- The decimal with the fewest digits that reads back to `m * 2 ^ e`. Seventeen digits always
suffice; the exact decimal stands behind them. -/
def shortest (m : Nat) (e : Int) : Decimal :=
  let k := places m e
  ((List.range 17).findSome? fun n => onGrid? m e (k - (n + 1 : Nat))).getD
    ⟨m * twoTo e.toNat * Nat.pow 5 (-e).toNat, min e 0⟩

end Decimal

namespace Binary64

/-- Numbers below one are written without an exponent down to this place. -/
def firstPlainPlace : Int := -3

/-- Numbers are written without an exponent as long as they have at most this many places. -/
def lastPlainPlace : Int := 16

/-- A run of zeros. -/
def zeros (n : Int) : Text :=
  List.replicate n.toNat '0'

/-- Digits with a point behind the given place and at least one digit on both sides. -/
def plainText (digits : Text) (place : Int) : Text :=
  if place ≤ 0 then "0." ++ zeros (-place) ++ digits
  else if digits.length ≤ place then digits ++ zeros (place - digits.length) ++ ".0"
  else digits.take place.toNat ++ '.' :: digits.drop place.toNat

/-- Digits with a point behind the first one and an exponent of at least two digits. -/
def scientificText (digits : Text) (place : Int) : Text :=
  let exponent := place - 1
  let size := Text.ofNat exponent.natAbs
  let fraction : Text := if digits.length = 1 then [] else '.' :: digits.drop 1
  digits.take 1 ++ fraction ++ 'e' :: (if exponent < 0 then '-' else '+')
    :: zeros (2 - size.length) ++ size

/-- The text of a decimal, trailing zeros being dropped. -/
def decimalText (d : Decimal) : Text :=
  let written := Text.ofNat d.digits
  let digits := Text.dropTrailing (· = '0') written
  let place := (written.length : Int) + d.exponent
  if firstPlainPlace ≤ place ∧ place ≤ lastPlainPlace then plainText digits place
  else scientificText digits place

/-- The text of a number. -/
def text : Binary64 → Text
  | .notANumber => "nan"
  | .infinite negative => if negative then "-inf" else "inf"
  | .finite negative m e =>
      let magnitude : Text := if m = 0 then "0.0" else decimalText (Decimal.shortest m e)
      if negative then '-' :: magnitude else magnitude

end Binary64

end MessageCatalog
