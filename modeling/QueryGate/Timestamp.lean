import QueryGate.Text.Blank

/-!
Instants as dates and times of day in UTC, down to a nanosecond. They are read in the written form
of internet dates, with some freedom about blanks and letters, and written in it exactly.
-/

namespace QueryGate

/-- A date and a time of day as they are written, possible or not. -/
structure Moment where
  year : Int
  month : Nat
  day : Nat
  hour : Nat
  minute : Nat
  second : Nat
  nanosecond : Nat
  deriving DecidableEq, Repr

namespace Moment

/-! ### The calendar -/

def isLeap (year : Int) : Bool := year % 4 = 0 && (year % 100 ≠ 0 || year % 400 = 0)

def daysIn (year : Int) (month : Nat) : Nat :=
  if month = 2 then (if isLeap year then 29 else 28)
  else if month = 4 || month = 6 || month = 9 || month = 11 then 30
  else 31

/-- The years that dates can have. -/
def inCalendar (year : Int) : Bool := -262143 ≤ year && year ≤ 262142

/-- Whether there is such a moment. The second 60 is one that is inserted. -/
def isValid (t : Moment) : Bool :=
  inCalendar t.year && 1 ≤ t.month && t.month ≤ 12 && 1 ≤ t.day && t.day ≤ daysIn t.year t.month &&
    t.hour < 24 && t.minute < 60 && t.second ≤ 60 && t.nanosecond < 1000000000

def nextDay (t : Moment) : Moment :=
  if t.day < daysIn t.year t.month then { t with day := t.day + 1 }
  else if t.month < 12 then { t with month := t.month + 1, day := 1 }
  else { t with year := t.year + 1, month := 1, day := 1 }

def previousDay (t : Moment) : Moment :=
  if 1 < t.day then { t with day := t.day - 1 }
  else if 1 < t.month then { t with month := t.month - 1, day := daysIn t.year (t.month - 1) }
  else { t with year := t.year - 1, month := 12, day := 31 }

/-- The same local time read at a meridian that is `offset` minutes ahead. -/
def toUtc (t : Moment) (offset : Int) : Moment :=
  let m : Int := t.hour * 60 + t.minute - offset
  let moved (m : Int) (u : Moment) : Moment :=
    { u with hour := m.toNat / 60, minute := m.toNat % 60 }
  if m < 0 then moved (m + 1440) t.previousDay
  else if 1440 ≤ m then moved (m - 1440) t.nextDay
  else moved m t

/-- The moment that clocks count from. -/
def epoch : Moment := ⟨1970, 1, 1, 0, 0, 0, 0⟩

/-- The moment so many seconds after the one that clocks count from. -/
def ofSeconds (seconds nanosecond : Nat) : Moment :=
  let second := seconds % 86400
  { (seconds / 86400).repeat nextDay epoch with
    hour := second / 3600
    minute := second / 60 % 60
    second := second % 60
    nanosecond }

end Moment

structure Timestamp extends Moment where
  valid : toMoment.isValid = true
  deriving DecidableEq, Repr

namespace Timestamp

def ofMoment? (m : Moment) : Option Timestamp :=
  if h : m.isValid = true then some ⟨m, h⟩ else none

def epoch : Timestamp := ⟨.epoch, by decide⟩

/-- The parts of an instant from the most to the least significant one. -/
def parts (t : Timestamp) : List Int :=
  [t.year, t.month, t.day, t.hour, t.minute, t.second, t.nanosecond]

def earlier : List Int → List Int → Bool
  | a :: as, b :: bs => a < b || (a = b && earlier as bs)
  | _, _ => false

/-- Whether an instant comes before another. -/
def before (s t : Timestamp) : Bool := earlier s.parts t.parts

/-! ### Writing -/

def pad (width : Nat) (n : Nat) : List Char :=
  let ds := Nat.toDigits 10 n
  List.replicate (width - ds.length) '0' ++ ds

/-- Four digits; a year that needs more, or lies before year zero, has a sign. -/
def writeYear (y : Int) : List Char :=
  if 0 ≤ y ∧ y ≤ 9999 then pad 4 y.toNat
  else (if y < 0 then '-' else '+') :: pad 4 y.natAbs

def writeDate (t : Timestamp) : List Char :=
  writeYear t.year ++ '-' :: pad 2 t.month ++ '-' :: pad 2 t.day

def writeTime (t : Timestamp) : List Char :=
  pad 2 t.hour ++ ':' :: pad 2 t.minute ++ ':' :: pad 2 t.second

/-- Three, six or nine digits, the fewest that are exact. -/
def writeFraction (n : Nat) : List Char :=
  if n = 0 then []
  else if n % 1000000 = 0 then '.' :: pad 3 (n / 1000000)
  else if n % 1000 = 0 then '.' :: pad 6 (n / 1000)
  else '.' :: pad 9 n

/-- Date, time and `zone`, which names the meridian of Greenwich. -/
def write (zone : String) (t : Timestamp) : String :=
  String.ofList (t.writeDate ++ 'T' :: t.writeTime ++ writeFraction t.nanosecond) ++ zone

/-- The form in which documents hold an instant. -/
def toText (t : Timestamp) : String := t.write "Z"

/-- Date and time to the second. -/
def toShortText (t : Timestamp) : String :=
  String.ofList (t.writeDate ++ ' ' :: t.writeTime)

end Timestamp

end QueryGate
