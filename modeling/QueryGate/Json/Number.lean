import QueryGate.Binary.Shortest
import QueryGate.Json

/-!
What a written number is worth: an integer of 64 bits where it is one, and otherwise a binary value
of double precision. Digits that no longer fit 64 bits only count as powers of ten.
-/

namespace QueryGate

inductive Number
  | integer (i : Int)
  | real (b : Binary)
  deriving DecidableEq, Repr

namespace Numeral

/-- Significant digits, and how many whole digits were left out of them. -/
structure Significand where
  digits : Nat
  dropped : Nat

def fits (n : Nat) : Bool := n < UInt64.size

def digit (c : Char) : Nat := c.toNat - '0'.toNat

def readWhole (s : Significand) (c : Char) : Significand :=
  if s.dropped = 0 && fits (10 * s.digits + digit c) then ⟨10 * s.digits + digit c, 0⟩
  else ⟨s.digits, s.dropped + 1⟩

/-- Takes fraction digits as long as they fit; each moves the exponent down by one. -/
def readFraction (n : Nat) (e : Int) : List Char → Nat × Int
  | [] => (n, e)
  | c :: cs =>
    if fits (10 * n + digit c) then readFraction (10 * n + digit c) (e - 1) cs else (n, e)

def finitePart : Binary → Option (Nat × Int)
  | .finite _ m p => some (m, p)
  | _ => none

def powerOfTen (k : Nat) : Nat × Int :=
  (finitePart (Binary.ofDecimal Binary.double false 1 k)).getD (0, 0)

/-- A binary value divided by ten to the power `k`, at most 308 at a time. -/
def divideBy : Nat → Nat × Int → Nat → Option (Nat × Int)
  | 0, x, _ => some x
  | fuel + 1, x, k =>
    if x.1 = 0 then some x
    else if k ≤ 308 then finitePart (Binary.div Binary.double x (powerOfTen k))
    else match finitePart (Binary.div Binary.double x (powerOfTen 308)) with
      | some y => divideBy fuel y (k - 308)
      | none => none

/-- The significand times a power of ten; there is none when it is out of range. -/
def scaled? (n : Nat) (e : Int) : Option (Nat × Int) :=
  match finitePart (Binary.ofRatio Binary.double false n 1) with
  | none => none
  | some x =>
    if x.1 = 0 then some x
    else if e < 0 then divideBy 4 x (-e).toNat
    else if e ≤ 308 then finitePart (Binary.mul Binary.double x (powerOfTen e.toNat))
    else none

/-- What a numeral is worth; nothing when it is out of range. -/
def value? (n : Numeral) : Option Number :=
  let w := n.whole.foldl readWhole ⟨0, 0⟩
  let f := readFraction w.digits w.dropped n.fraction
  let real := (scaled? f.1 (f.2 + n.exponent.getD 0)).map fun x =>
    .real (.finite n.negative x.1 x.2)
  if n.isWhole && w.dropped = 0 then
    if !n.negative then some (.integer w.digits)
    else if 0 < w.digits && w.digits ≤ Nat.pow 2 63 then some (.integer (-w.digits))
    else real
  else real

/-- How documents write binary values of single precision. -/
def singleNotation : Binary.Notation := ⟨6, 13⟩

/-- The shortest numeral of a finite value; other values have none. -/
def ofBinary? (f : Binary.Format) (n : Binary.Notation) : Binary → Option Numeral
  | .finite negative m power =>
    let (d, e) := Binary.shortest f m power
    let ds := Nat.toDigits 10 d
    if n.isPositional d e then
      let cs := Binary.positional d e
      some ⟨negative, cs.takeWhile (· ≠ '.'), (cs.dropWhile (· ≠ '.')).drop 1, none⟩
    else some ⟨negative, ds.take 1, ds.drop 1, some (e + (ds.length - 1 : Int))⟩
  | _ => none

end Numeral

/-- A value that is no number of a document is null. -/
def Json.ofBinary (f : Binary.Format) (n : Binary.Notation) (b : Binary) : Json :=
  match Numeral.ofBinary? f n b with
  | some numeral => .number numeral
  | none => .null

def Json.ofSingle (b : Binary) : Json := .ofBinary Binary.single Numeral.singleNotation b

mutual

/-- Whether every number of a document is in range. -/
def Json.inRange : Json → Bool
  | .number n => n.value?.isSome
  | .array items => inRangeAll items
  | .object members => inRangeMembers members
  | _ => true

def Json.inRangeAll : List Json → Bool
  | [] => true
  | j :: js => j.inRange && inRangeAll js

def Json.inRangeMembers : List (String × Json) → Bool
  | [] => true
  | (_, j) :: js => j.inRange && inRangeMembers js

end

mutual

/-- Whether every string of a document is a text. -/
def Json.isText : Json → Bool
  | .unpaired => false
  | .array items => isTextAll items
  | .object members => isTextMembers members
  | _ => true

def Json.isTextAll : List Json → Bool
  | [] => true
  | j :: js => j.isText && isTextAll js

def Json.isTextMembers : List (String × Json) → Bool
  | [] => true
  | (_, j) :: js => j.isText && isTextMembers js

end

/-- What a free-form document may be: its numbers are in range, its strings are texts, and it is
nested no deeper than `limit`. -/
def Json.isFreeForm (limit : Nat) (j : Json) : Bool := j.depth ≤ limit && j.inRange && j.isText

end QueryGate
