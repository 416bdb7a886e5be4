import QueryGate.Text.Blank
import QueryGate.Text.Case

/-!
Names of tables and columns. Two spellings name the same thing when their normal forms agree: outer
white space is dropped, one pair of double quotes is opened, and case is ignored.
-/

namespace QueryGate.Identifier

/-- A doubled quote inside a quoted name stands for one quote. -/
def undouble : List Char → List Char
  | '"' :: '"' :: cs => '"' :: undouble cs
  | c :: cs => c :: undouble cs
  | [] => []

/-- The name between a pair of quotes; a text that is not in quotes stands for itself. -/
def unquote (cs : List Char) : List Char :=
  match cs with
  | '"' :: inner => if inner.getLast? = some '"' then undouble inner.dropLast else cs
  | _ => cs

def normalizeChars (cs : List Char) : List Char :=
  Text.lowerFrom [] (unquote (Text.trimChars cs))

def normalize (name : String) : String := String.ofList (normalizeChars name.toList)

/-- A name in double quotes, its own quotes doubled. -/
def quote (name : String) : String :=
  "\"" ++ String.ofList (name.toList.flatMap fun c => if c = '"' then ['"', '"'] else [c]) ++ "\""

end QueryGate.Identifier
