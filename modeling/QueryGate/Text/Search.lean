/-!
Looking for one text inside another.
-/

namespace QueryGate.Text

/-- The text up to and with the first `mark`, and what follows; all of it when there is no
`mark`. -/
def through (mark : List Char) : List Char → List Char × List Char
  | [] => ([], [])
  | c :: cs =>
    if mark.isPrefixOf (c :: cs) then ((c :: cs).take mark.length, (c :: cs).drop mark.length)
    else
      let r := through mark cs
      (c :: r.1, r.2)

theorem through_append (mark cs : List Char) :
    (through mark cs).1 ++ (through mark cs).2 = cs := by
  induction cs with
  | nil => rfl
  | cons c cs ih =>
    unfold through
    split
    · exact List.take_append_drop ..
    · simp [ih]

/-- The texts before and after the first `mark`. -/
def cut? (mark : List Char) : List Char → Option (List Char × List Char)
  | [] => if mark = [] then some ([], []) else none
  | c :: cs =>
    if mark.isPrefixOf (c :: cs) then some ([], (c :: cs).drop mark.length)
    else (cut? mark cs).map fun r => (c :: r.1, r.2)

def contains (mark : String) (s : String) : Bool := (cut? mark.toList s.toList).isSome

/-- A text without its ending, when it has that ending. -/
def dropSuffix? (suffix cs : List Char) : Option (List Char) :=
  if suffix.isSuffixOf cs then some (cs.take (cs.length - suffix.length)) else none

/-- The first `n` bytes of a text and what follows them, unless a character goes on behind them. -/
def cutBytes? : Nat → List Char → Option (List Char × List Char)
  | 0, cs => some ([], cs)
  | _ + 1, [] => none
  | n + 1, c :: cs =>
    if c.utf8Size ≤ n + 1 then
      (cutBytes? (n + 1 - c.utf8Size) cs).map fun r => (c :: r.1, r.2)
    else none

/-- The parts of a text between separator characters; one more than there are separators. -/
def splitAt (sep : Char) : List Char → List (List Char)
  | [] => [[]]
  | c :: cs =>
    if c = sep then [] :: splitAt sep cs
    else match splitAt sep cs with
      | [] => [[c]]
      | part :: parts => (c :: part) :: parts

def join (sep : String) (parts : List String) : String := String.intercalate sep parts

end QueryGate.Text
