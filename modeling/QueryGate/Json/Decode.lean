import QueryGate.Json.Number
import QueryGate.OrderedMap
import QueryGate.Text.Quoted

/-!
Reading documents as values of a given shape. A record is written as an object of its fields or as
an array of them in order; the first thing that does not fit is reported.
-/

namespace QueryGate

/-- Why a document does not have the shape that is asked for. -/
inductive Mismatch
  | unlike (found : Json) (expected : String)
  | missing (field : String)
  | repeated (field : String)
  | short (length : Nat) (expected : String)
  | long (length : Nat)
  | unlikeAny (choice : String)
  deriving Repr

namespace Json

/-- What kind of value a document is, with the value itself where it is short. -/
def describe : Json → String
  | .null => "null"
  | .bool b => "boolean `" ++ toString b ++ "`"
  | .number n =>
    match n.value? with
    | some (.integer i) => "integer `" ++ toString i ++ "`"
    | some (.real b) => "floating point `" ++ (b.plainText? Binary.double).getD "" ++ "`"
    | none => "number"
  | .string s => "string " ++ Text.quoteVisibly s
  | .unpaired => "string"
  | .array _ => "sequence"
  | .object _ => "map"

end Json

def Mismatch.message : Mismatch → String
  | .unlike found expected => "invalid type: " ++ found.describe ++ ", expected " ++ expected
  | .missing field => "missing field `" ++ field ++ "`"
  | .repeated field => "duplicate field `" ++ field ++ "`"
  | .short length expected => "invalid length " ++ toString length ++ ", expected " ++ expected
  | .long length => "invalid length " ++ toString length ++ ", expected fewer elements in array"
  | .unlikeAny choice => "data did not match any variant of untagged enum " ++ choice

namespace Json

mutual

/-- Each key once: the place of its first member, and the value of its last. -/
def collapse : Json → Json
  | .array items => .array (collapseAll items)
  | .object members => .object (OrderedMap.ofList (collapseMembers members)).entries
  | j => j

def collapseAll : List Json → List Json
  | [] => []
  | j :: js => j.collapse :: collapseAll js

def collapseMembers : List (String × Json) → List (String × Json)
  | [] => []
  | (k, j) :: ms => (k, j.collapse) :: collapseMembers ms

end

def asString : Json → Except Mismatch String
  | .string s => .ok s
  | j => .error (.unlike j "a string")

def asStrings : Json → Except Mismatch (List String)
  | .array items => items.mapM asString
  | j => .error (.unlike j "a sequence")

/-- A value that may also be null. -/
def asOptional {α : Type} (read : Json → Except Mismatch α) : Json → Except Mismatch (Option α)
  | .null => .ok none
  | j => some <$> read j

/-- Takes the value of a field that has not been met before. -/
def once {α : Type} (field : String) (met : Option α) (value : Except Mismatch α) :
    Except Mismatch (Option α) :=
  if met.isSome then .error (.repeated field) else some <$> value

/-- The value of a field that must have been met. -/
def required {α : Type} (field : String) : Option α → Except Mismatch α
  | some a => .ok a
  | none => .error (.missing field)

/-- The value of the only field of a record, when the document is such a record. -/
def onlyField? (field : String) : Json → Option Json
  | .object members =>
    match members.filter (·.1 = field) with
    | [(_, j)] => some j
    | _ => none
  | .array [j] => some j
  | _ => none

end Json

end QueryGate
