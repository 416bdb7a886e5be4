import QueryGate.Json
import QueryGate.Timestamp
import QueryGate.Toml

/-!
Numbers, dates and times of a settings file. Digits may be grouped by single underscores; decimal
numbers have no leading zeros.
-/

namespace QueryGate.Toml

/-- Digits without the underscores between them. -/
def ungroup? (isDigit : Char → Bool) : List Char → Option (List Char)
  | [] => none
  | [c] => if isDigit c then some [c] else none
  | c :: '_' :: cs => if isDigit c then (c :: ·) <$> ungroup? isDigit cs else none
  | c :: cs => if isDigit c then (c :: ·) <$> ungroup? isDigit cs else none

def hexValue (c : Char) : Nat :=
  if c.isDigit then c.toNat - '0'.toNat else c.toLower.toNat - 'a'.toNat + 10

def isHexDigit (c : Char) : Bool := c.isDigit || ('a' ≤ c.toLower && c.toLower ≤ 'f')

def valueIn (base : Nat) (ds : List Char) : Nat := ds.foldl (fun n c => base * n + hexValue c) 0

/-- A sign, and what follows it. -/
def splitSign : List Char → Bool × List Char
  | '-' :: cs => (true, cs)
  | '+' :: cs => (false, cs)
  | cs => (false, cs)

/-- Decimal digits of a whole number. -/
def wholeDigits? (cs : List Char) : Option (List Char) := do
  let ds ← ungroup? Char.isDigit cs
  if ds.head? = some '0' && 1 < ds.length then none else return ds

def natural? (cs : List Char) : Option Nat :=
  match cs with
  | '0' :: 'x' :: ds => (ungroup? isHexDigit ds).map (valueIn 16)
  | '0' :: 'o' :: ds => (ungroup? (fun c => '0' ≤ c && c ≤ '7') ds).map (valueIn 8)
  | '0' :: 'b' :: ds => (ungroup? (fun c => c = '0' || c = '1') ds).map (valueIn 2)
  | _ => (wholeDigits? cs).map (valueIn 10)

/-- An integer of 128 bits, with or without a sign. -/
def integer? (cs : List Char) : Option Int := do
  let (negative, ds) := splitSign cs
  let n ← if ds.length < cs.length then (wholeDigits? ds).map (valueIn 10) else natural? cs
  let i : Int := if negative then -n else n
  if -Int.pow 2 127 ≤ i && i < Int.pow 2 128 then return i else none

/-- The digits after a point, or none without a point, and what follows them. -/
def fraction? : List Char → Option (List Char × List Char)
  | '.' :: cs =>
    let ds := cs.takeWhile fun c => c.isDigit || c = '_'
    (ungroup? Char.isDigit ds).map (·, cs.drop ds.length)
  | cs => some ([], cs)

def exponent? : List Char → Option Int
  | [] => some 0
  | e :: cs =>
    if e = 'e' || e = 'E' then do
      let (negative, ds) := splitSign cs
      let n := valueIn 10 (← ungroup? Char.isDigit ds)
      return if negative then -n else n
    else none

/-- A finite number, or one of the words for other values. -/
def real? (cs : List Char) : Option Binary := do
  let (negative, ds) := splitSign cs
  if ds = "inf".toList then return .infinite negative
  if ds = "nan".toList then return .undefined
  let written := ds.takeWhile fun c => c.isDigit || c = '_'
  let whole ← wholeDigits? written
  let (fraction, rest) ← fraction? (ds.drop written.length)
  if fraction.isEmpty && rest.isEmpty then none
  let e ← exponent? rest
  let b := Binary.ofDecimal Binary.double negative (valueIn 10 (whole ++ fraction))
    (e - fraction.length)
  if b.isFinite then return b else none

/-! ### Dates and times -/

/-- A number written with exactly `width` digits. -/
def fixed? (width : Nat) (cs : List Char) : Option (Nat × List Char) :=
  let ds := cs.take width
  if ds.length = width && ds.all Char.isDigit then some (valueIn 10 ds, cs.drop width) else none

def mark? (marks : List Char) : List Char → Option (List Char)
  | c :: cs => if marks.contains c then some cs else none
  | [] => none

def date? (cs : List Char) : Option (List Char) := do
  let (year, cs) ← fixed? 4 cs
  let (month, cs) ← fixed? 2 (← mark? ['-'] cs)
  let (day, cs) ← fixed? 2 (← mark? ['-'] cs)
  if 1 ≤ month && month ≤ 12 && 1 ≤ day && day ≤ Moment.daysIn year month then return cs else none

/-- Seconds may be left out. -/
def seconds? (cs : List Char) : Option (List Char) :=
  match cs with
  | ':' :: cs => do
    let (second, cs) ← fixed? 2 cs
    if 60 < second then none
    match cs with
    | '.' :: ds =>
      let digits := ds.takeWhile Char.isDigit
      if digits.isEmpty then none else return ds.drop digits.length
    | _ => return cs
  | cs => some cs

def clock? (cs : List Char) : Option (List Char) := do
  let (hour, cs) ← fixed? 2 cs
  let (minute, cs) ← fixed? 2 (← mark? [':'] cs)
  if hour < 24 && minute < 60 then seconds? cs else none

def offset? (cs : List Char) : Option (List Char) :=
  match cs with
  | [] => some []
  | c :: ds =>
    if c = 'Z' || c = 'z' then some ds
    else if c = '+' || c = '-' then do
      let (hour, ds) ← fixed? 2 ds
      let (minute, ds) ← fixed? 2 (← mark? [':'] ds)
      if hour < 24 && minute < 60 then return ds else none
    else none

/-- Whether characters are a date, a time of day or both. -/
def isMoment (cs : List Char) : Bool :=
  match date? cs with
  | some [] => true
  | some (c :: rest) =>
    (c = 'T' || c = 't' || c = ' ') && ((clock? rest).bind offset?) = some []
  | none => clock? cs = some []

/-- The value that unquoted characters stand for. -/
def scalar? (cs : List Char) : Option Toml :=
  if cs = "true".toList then some (.bool true)
  else if cs = "false".toList then some (.bool false)
  else if isMoment cs then some .moment
  else match integer? cs with
    | some i => some (.integer i)
    | none => (real? cs).map .real

end QueryGate.Toml
