import QueryGate.Lexeme.Scan

/-!
Scripts: statements separated by semicolons. A semicolon inside a literal, a quoted name or a
comment separates nothing, because it is no lexeme of its own.
-/

namespace QueryGate.Script

/-- The texts between the semicolons of a layout, with their gaps. -/
def pieces (tail : List Char) : List Placed → List (List Char)
  | [] => [tail]
  | p :: ps =>
    if p.lexeme.kind = .semicolon then p.gap :: pieces tail ps
    else match pieces tail ps with
      | [] => [p.gap ++ p.lexeme.chars]
      | piece :: rest => (p.gap ++ p.lexeme.chars ++ piece) :: rest

/-- The statements of a script, without white space around them; empty ones do not count. -/
def splitChars (cs : List Char) : List (List Char) :=
  let l := Layout.ofChars cs
  ((pieces l.tail l.placed).map Text.trimChars).filter (!·.isEmpty)

def split (script : String) : List String := (splitChars script.toList).map String.ofList

/-- A statement with a semicolon at its end. -/
def terminate (cs : List Char) : List Char :=
  if cs.getLast? = some ';' then cs else cs ++ [';']

/-- A transaction that runs a statement and takes it back. -/
def rolledBack (savepoint sql : String) : String :=
  Text.join "\n"
    ["BEGIN;", "SAVEPOINT " ++ savepoint ++ ";",
      String.ofList (terminate (Text.trimChars sql.toList)),
      "ROLLBACK TO SAVEPOINT " ++ savepoint ++ ";", "COMMIT;"]

end QueryGate.Script
