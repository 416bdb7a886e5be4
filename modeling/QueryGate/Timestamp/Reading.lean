import QueryGate.Json
import QueryGate.Timestamp

/-!
Reading an instant. Blanks may stand before every number and around its marks, a number may have
fewer digits than it is written with, and the offset from Greenwich must be given.
-/

namespace QueryGate.Timestamp

/-- A number of at most `width` digits, after blanks. -/
def readNumber? (width : Nat) (cs : List Char) : Option (Nat × List Char) :=
  let cs := Text.trimStart cs
  let ds := (cs.take width).takeWhile Char.isDigit
  if ds.isEmpty then none else some (Numeral.digitsValue ds, cs.drop ds.length)

/-- A year of four digits at most, or of any length after a sign. -/
def readYear? (cs : List Char) : Option (Int × List Char) :=
  match Text.trimStart cs with
  | '-' :: ds =>
    if (ds.head?.any Char.isDigit) then
      some (-(Numeral.digitsValue (ds.takeWhile Char.isDigit) : Int), ds.dropWhile Char.isDigit)
    else none
  | '+' :: ds =>
    if (ds.head?.any Char.isDigit) then
      some (Numeral.digitsValue (ds.takeWhile Char.isDigit), ds.dropWhile Char.isDigit)
    else none
  | ds => (readNumber? 4 ds).map fun r => (r.1, r.2)

/-- A mark, after blanks. -/
def readMark? (mark : Char) (cs : List Char) : Option (List Char) :=
  match Text.trimStart cs with
  | c :: ds => if c = mark then some ds else none
  | [] => none

/-- Digits after a point, as nanoseconds; what is finer is cut off. -/
def readFraction? : List Char → Option (Nat × List Char)
  | '.' :: cs =>
    let ds := cs.takeWhile Char.isDigit
    if ds.isEmpty then none
    else
      let kept := ds.take 9
      some (Numeral.digitsValue kept * Nat.pow 10 (9 - kept.length), cs.dropWhile Char.isDigit)
  | cs => some (0, cs)

/-- Two digits of a number that is less than `bound`. -/
def readPair? (bound : Nat) : List Char → Option (Nat × List Char)
  | a :: b :: cs =>
    if a.isDigit && b.isDigit && Numeral.digitsValue [a, b] < bound then
      some (Numeral.digitsValue [a, b], cs)
    else none
  | _ => none

/-- Whether some characters begin with the name of universal time. -/
def startsWithUtc (cs : List Char) : Bool := (cs.take 3).map Char.toUpper = ['U', 'T', 'C']

/-- The minutes that local time is ahead of Greenwich. -/
def readOffset? (cs : List Char) : Option (Int × List Char) :=
  if startsWithUtc cs then some (0, cs.drop 3)
  else match cs with
    | [] => none
    | c :: ds =>
      if c = 'Z' ∨ c = 'z' then some (0, ds)
      else if c = '+' ∨ c = '-' ∨ c = '\u2212' then do
        let (hours, ds) ← readPair? 24 ds
        let (minutes, ds) ← readPair? 60 (ds.dropWhile fun d => d = ':' || Text.isBlank d)
        let m : Int := hours * 60 + minutes
        return (if c = '+' then m else -m, ds)
      else none

def readChars? (cs : List Char) : Option Timestamp := do
  let (year, cs) ← readYear? cs
  let (month, cs) ← readNumber? 2 (← readMark? '-' cs)
  let (day, cs) ← readNumber? 2 (← readMark? '-' cs)
  let (between, cs) ← match cs with
    | c :: ds => some (c, ds)
    | [] => none
  if !(between = 'T' || between = 't' || between = ' ') then none
  let (hour, cs) ← readNumber? 2 cs
  let (minute, cs) ← readNumber? 2 (← readMark? ':' cs)
  let (second, cs) ← readNumber? 2 (← readMark? ':' cs)
  let (nanosecond, cs) ← readFraction? cs
  let (offset, cs) ← readOffset? (Text.trimStart cs)
  if !(Text.trimStart cs).isEmpty then none
  let m : Moment := ⟨year, month, day, hour, minute, second, nanosecond⟩
  if m.isValid then ofMoment? (m.toUtc offset) else none

def read? (text : String) : Option Timestamp := readChars? text.toList

end QueryGate.Timestamp
