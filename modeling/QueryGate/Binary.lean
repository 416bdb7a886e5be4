/-!
Binary floating point as integers: a finite value is a mantissa times a power of two, and results
are rounded to the nearest value of a format, ties to an even mantissa.
-/

namespace QueryGate

/-- The shape of a format: bits in a mantissa, and the least and greatest power of two that a
mantissa is multiplied by. -/
structure Binary.Format where
  bits : Nat
  least : Int
  greatest : Int

inductive Binary
  | finite (negative : Bool) (mantissa : Nat) (power : Int)
  | infinite (negative : Bool)
  | undefined
  deriving DecidableEq, Repr

namespace Binary

def single : Format := ⟨24, -149, 104⟩

def double : Format := ⟨53, -1074, 971⟩

/-- The quotient of two numbers to the nearest integer, a tie to the even one. -/
def roundDiv (num den : Nat) : Nat :=
  let q := num / den
  let r := num % den
  if 2 * r < den then q else if den < 2 * r then q + 1 else q + q % 2

/-- `num / den` divided by `2 ^ power`, as a quotient. -/
def scale (num den : Nat) (power : Int) : Nat × Nat :=
  (num * Nat.pow 2 (-power).toNat, den * Nat.pow 2 power.toNat)

/-- The value of a format nearest to a positive quotient; infinite when it is out of range. -/
def ofRatio (f : Format) (negative : Bool) (num den : Nat) : Binary :=
  if num = 0 then .finite negative 0 f.least
  else
    let guess : Int := (Nat.log2 num : Int) - Nat.log2 den - f.bits
    let s := scale num den (guess + 1)
    let power := max f.least (if s.1 / s.2 < Nat.pow 2 (f.bits - 1) then guess else guess + 1)
    let t := scale num den power
    let m := roundDiv t.1 t.2
    let (m, power) := if m = Nat.pow 2 f.bits then (m / 2, power + 1) else (m, power)
    if f.greatest < power then .infinite negative else .finite negative m power

/-- The value nearest to a decimal number; the bounds on the exponent only spare work. -/
def ofDecimal (f : Format) (negative : Bool) (digits : Nat) (exponent : Int) : Binary :=
  let size : Int := (Nat.toDigits 10 digits).length + exponent
  if digits = 0 || size < -400 then .finite negative 0 f.least
  else if 400 < size then .infinite negative
  else ofRatio f negative (digits * Nat.pow 10 exponent.toNat) (Nat.pow 10 (-exponent).toNat)

def isFinite : Binary → Bool
  | .finite .. => true
  | _ => false

/-- The numerator and denominator of a mantissa times a power of two. -/
def ratio (m : Nat) (power : Int) : Nat × Nat := scale m 1 (-power)

/-- The nearest value in another format. -/
def convert (f : Format) : Binary → Binary
  | .finite negative m power => ofRatio f negative (ratio m power).1 (ratio m power).2
  | b => b

def mul (f : Format) (a b : Nat × Int) : Binary :=
  let r := ratio (a.1 * b.1) (a.2 + b.2)
  ofRatio f false r.1 r.2

def div (f : Format) (a b : Nat × Int) : Binary :=
  let r := ratio a.1 (a.2 - b.2)
  ofRatio f false r.1 (r.2 * b.1)

end Binary

end QueryGate
