/-!
JSON documents as written: numbers keep their digits, and objects keep the order and the repetition
of their members.
-/

namespace QueryGate

/-- A number as its digits: `whole.fraction` times a power of ten. -/
structure Numeral where
  negative : Bool
  whole : List Char
  fraction : List Char
  exponent : Option Int
  deriving DecidableEq, Repr

namespace Numeral

def ofNat (n : Nat) : Numeral := ⟨false, Nat.toDigits 10 n, [], none⟩

/-- Written without a point and without an exponent. -/
def isWhole (n : Numeral) : Bool := n.fraction.isEmpty && n.exponent.isNone

/-- The number that a run of decimal digits stands for. -/
def digitsValue (ds : List Char) : Nat := ds.foldl (fun n d => 10 * n + (d.toNat - '0'.toNat)) 0

def toChars (n : Numeral) : List Char :=
  (if n.negative then ['-'] else []) ++ n.whole ++
    (if n.fraction.isEmpty then [] else '.' :: n.fraction) ++
    match n.exponent with
    | none => []
    | some e => 'e' :: (toString e).toList

end Numeral

/-- A document. A string whose escapes name half of a surrogate pair is no text; it, and an object
with such a key, is `unpaired`. -/
inductive Json
  | null
  | bool (b : Bool)
  | number (n : Numeral)
  | string (s : String)
  | unpaired
  | array (items : List Json)
  | object (members : List (String × Json))
  deriving Repr

namespace Json

def nat (n : Nat) : Json := .number (.ofNat n)

def strings (ss : List String) : Json := .array (ss.map .string)

/-- A member that is left out when it has no value. -/
def optional (key : String) (value : Option Json) : List (String × Json) :=
  match value with
  | some j => [(key, j)]
  | none => []

/-- The member under a key; the last one counts when the key is repeated. -/
def member? (key : String) : Json → Option Json
  | .object members => members.reverse.lookup key
  | _ => none

mutual

/-- How many arrays and objects contain one another at most. -/
def depth : Json → Nat
  | .array items => 1 + depthAll items
  | .object members => 1 + depthMembers members
  | _ => 0

def depthAll : List Json → Nat
  | [] => 0
  | j :: js => max j.depth (depthAll js)

def depthMembers : List (String × Json) → Nat
  | [] => 0
  | (_, j) :: js => max j.depth (depthMembers js)

end

end Json

end QueryGate
