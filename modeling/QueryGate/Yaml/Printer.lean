import QueryGate.Yaml.Scalar

/-!
Documents in blocks of indented lines. The items of a list stand below its key without further
indentation.
-/

namespace QueryGate.Yaml

/-- A value that takes no lines of its own. -/
def inline? (isKey : Bool) (indent : Nat) : Json → Option (List Char)
  | .null => some "null".toList
  | .bool b => some (toString b).toList
  | .number n => some n.toChars
  | .string s => some (scalar isKey indent s.toList)
  | .unpaired => some "''".toList
  | .array [] => some "[]".toList
  | .object [] => some "{}".toList
  | _ => none

/-- Ends a line, unless a block has ended it. -/
def endLine (cs : List Char) : List Char := if cs.getLast?.any isBreak then cs else cs ++ ['\n']

/-- Whether a key can stand on one line with its colon. -/
def isSimpleKey (k : String) : Bool := !k.toList.any isBreak && k.utf8ByteSize ≤ 128

mutual

/-- What follows a key in a mapping at column `indent`. -/
def afterKey (indent : Nat) (j : Json) : List Char :=
  match j with
  | .array (v :: vs) => '\n' :: items indent (v :: vs)
  | .object (m :: ms) => '\n' :: members (indent + 2) (m :: ms)
  | j => ' ' :: endLine ((inline? false (indent + 2) j).getD [])

/-- What follows a mark at column `indent`; a list or mapping goes on in the same line. -/
def afterMark (indent : Nat) (j : Json) : List Char :=
  match j with
  | .array (v :: vs) => ' ' :: (items (indent + 2) (v :: vs)).drop (indent + 2)
  | .object (m :: ms) => ' ' :: (members (indent + 2) (m :: ms)).drop (indent + 2)
  | j => ' ' :: endLine ((inline? false (indent + 2) j).getD [])

def items (indent : Nat) : List Json → List Char
  | [] => []
  | j :: js => blanks indent ++ '-' :: afterMark indent j ++ items indent js

/-- The entries of a mapping. A key that takes more than its line has a mark of its own. -/
def members (indent : Nat) : List (String × Json) → List Char
  | [] => []
  | (k, j) :: ms =>
    (if isSimpleKey k then
      blanks indent ++ scalar true indent k.toList ++ ':' :: afterKey indent j
    else
      blanks indent ++ '?' :: ' ' :: endLine (scalar false (indent + 2) k.toList) ++
        blanks indent ++ ':' :: afterMark indent j) ++
      members indent ms

end

def print (j : Json) : String :=
  String.ofList <| match j with
  | .array (v :: vs) => items 0 (v :: vs)
  | .object (m :: ms) => members 0 (m :: ms)
  | j => endLine ((inline? false 2 j).getD [])

end QueryGate.Yaml
