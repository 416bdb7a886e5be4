/-!
Bytes in base 64, in the alphabet for addresses and without padding. Bits that are left over must be
zero, so each run of bytes has one spelling.
-/

namespace QueryGate.Base64Url

/-- The value of a digit. -/
def digit? (c : Char) : Option Nat :=
  if 'A' ≤ c ∧ c ≤ 'Z' then some (c.toNat - 'A'.toNat)
  else if 'a' ≤ c ∧ c ≤ 'z' then some (c.toNat - 'a'.toNat + 26)
  else if '0' ≤ c ∧ c ≤ '9' then some (c.toNat - '0'.toNat + 52)
  else if c = '-' then some 62
  else if c = '_' then some 63
  else none

def byte (n : Nat) : UInt8 := n.toUInt8

/-- The bytes of a run of digits: three for every four of them. -/
def bytesOfDigits? : List Nat → Option (List UInt8)
  | [] => some []
  | [_] => none
  | [a, b] => if b % 16 = 0 then some [byte (a * 4 + b / 16)] else none
  | [a, b, c] =>
    if c % 4 = 0 then some [byte (a * 4 + b / 16), byte (b % 16 * 16 + c / 4)] else none
  | a :: b :: c :: d :: ds =>
    (bytesOfDigits? ds).map fun r =>
      byte (a * 4 + b / 16) :: byte (b % 16 * 16 + c / 4) :: byte (c % 4 * 64 + d) :: r

def decode? (cs : List Char) : Option (List UInt8) := (cs.mapM digit?).bind bytesOfDigits?

end QueryGate.Base64Url
