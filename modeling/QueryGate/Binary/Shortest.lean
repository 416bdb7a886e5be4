import QueryGate.Binary

/-!
The fewest decimal digits that read back as the same binary value, nearest to it where several
numbers with so many digits do, and which way they are written.
-/

namespace QueryGate.Binary

/-- Four times the value and the ends of the interval of numbers that round to it, over one
denominator; the ends belong to the interval when the mantissa is even. -/
structure Interval where
  low : Nat
  value : Nat
  high : Nat
  den : Nat
  closed : Bool

def interval (f : Format) (m : Nat) (power : Int) : Interval :=
  let below := if m = Nat.pow 2 (f.bits - 1) && f.least < power then 1 else 2
  let up := Nat.pow 2 power.toNat
  ⟨(4 * m - below) * up, 4 * m * up, (4 * m + 2) * up, 4 * Nat.pow 2 (-power).toNat, m % 2 = 0⟩

/-- Whether `d * 10 ^ e` lies in the interval. -/
def Interval.holds (i : Interval) (d : Nat) (e : Int) : Bool :=
  let x := d * Nat.pow 10 e.toNat * i.den
  let s := Nat.pow 10 (-e).toNat
  if i.closed then i.low * s ≤ x && x ≤ i.high * s else i.low * s < x && x < i.high * s

/-- The number on the grid of step `10 ^ e` that lies in the interval, the nearer of two. -/
def Interval.onGrid? (i : Interval) (e : Int) : Option Nat :=
  let num := i.value * Nat.pow 10 (-e).toNat
  let den := i.den * Nat.pow 10 e.toNat
  let d := num / den
  let nearest := roundDiv num den
  let other := if nearest = d then d + 1 else d
  if i.holds nearest e then some nearest else if i.holds other e then some other else none

/-- The least `k` with `num < den * 10 ^ k`. -/
def decimalSize (num den : Nat) : Int :=
  let guess : Int := (Nat.toDigits 10 num).length - (Nat.toDigits 10 den).length
  if num * Nat.pow 10 (-guess).toNat < den * Nat.pow 10 guess.toNat then guess else guess + 1

/-- The first grid that meets the interval, counting digits from `n` on. -/
def shortestFrom (i : Interval) (size : Int) : Nat → Nat → Nat × Int
  | 0, n => (i.value, n)
  | fuel + 1, n =>
    match i.onGrid? (size - n) with
    | some d => (d, size - n)
    | none => shortestFrom i size fuel (n + 1)

/-- Digits without trailing zeros, and the power of ten that their last one counts. -/
def trimZeros : Nat → Nat → Int → Nat × Int
  | 0, d, e => (d, e)
  | fuel + 1, d, e => if d ≠ 0 && d % 10 = 0 then trimZeros fuel (d / 10) (e + 1) else (d, e)

def shortest (f : Format) (m : Nat) (power : Int) : Nat × Int :=
  if m = 0 then (0, 0)
  else
    let i := interval f m power
    let r := shortestFrom i (decimalSize i.value i.den) 20 1
    trimZeros 400 r.1 r.2

/-- Digits around a point, with at least one digit after it. -/
def positional (d : Nat) (e : Int) : List Char :=
  let ds := Nat.toDigits 10 d
  if 0 ≤ e then ds ++ List.replicate e.toNat '0' ++ ['.', '0']
  else
    let k := (-e).toNat
    let ds := List.replicate (k + 1 - ds.length) '0' ++ ds
    ds.take (ds.length - k) ++ '.' :: ds.drop (ds.length - k)

/-- Which values are written around a point: those of at least `10 ^ (-below)` that are less than
`10 ^ above`. -/
structure Notation where
  below : Int
  above : Int

def Notation.isPositional (n : Notation) (d : Nat) (e : Int) : Bool :=
  let size : Int := (Nat.toDigits 10 d).length + e
  d = 0 || (-n.below < size && size ≤ n.above)

/-- The text of a finite value, never with a power of ten; other values have none. -/
def plainText? (f : Format) : Binary → Option String
  | .finite negative m power =>
    let r := shortest f m power
    some (String.ofList ((if negative then ['-'] else []) ++ positional r.1 r.2))
  | _ => none

end QueryGate.Binary
