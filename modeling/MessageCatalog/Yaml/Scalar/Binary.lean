import MessageCatalog.Bytes

/-!
# Bytes in documents

Bytes are written as characters of 64 kinds, four for every three bytes; equal signs fill up the last
four. Other characters are skipped, and what follows a complete filling is not read.
-/

namespace MessageCatalog
namespace Yaml
namespace Binary

/-- The six bits that a character stands for. -/
def bits? (c : Char) : Option Nat :=
  if c.isUpper then some (c.toNat - 'A'.toNat)
  else if c.isLower then some (c.toNat - 'a'.toNat + 26)
  else if c.isDigit then some (c.toNat - '0'.toNat + 52)
  else if c = '+' then some 62
  else if c = '/' then some 63
  else none

/-- The bytes behind `held` characters of the present four, of which the last `left` bits are not yet
used, and `filled` equal signs. -/
def decodeFrom (held left filled : Nat) : Text → Option Bytes
  | [] => if held = 0 then some [] else none
  | c :: t =>
      if c = '=' then
        if 2 ≤ held ∧ 4 ≤ held + filled + 1 then some []
        else decodeFrom held left (if 2 ≤ held then filled + 1 else filled) t
      else
        match bits? c with
        | none => decodeFrom held left filled t
        | some bits =>
            let joined := left * 64 + bits
            match held with
            | 0 => decodeFrom 1 bits 0 t
            | 1 => (decodeFrom 2 (joined % 16) 0 t).map ((joined / 16).toUInt8 :: ·)
            | 2 => (decodeFrom 3 (joined % 4) 0 t).map ((joined / 4).toUInt8 :: ·)
            | _ => (decodeFrom 0 0 0 t).map (joined.toUInt8 :: ·)

/-- The bytes that a text of ASCII characters denotes. -/
def decode (t : Text) : Option Bytes :=
  if t.all (·.toNat < 0x80) then decodeFrom 0 0 0 t else none

end Binary
end Yaml
end MessageCatalog
