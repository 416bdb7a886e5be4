import QueryGate.Text.Blank
import QueryGate.Text.Case
import QueryGate.Text.Search

/-!
What a language model is told: how to answer, and what to answer about.
-/

namespace QueryGate.Prompt

def standardDialect : String := "postgres"

/-- The name of a dialect in capitals; a blank one is the standard one. -/
def dialectLabel (dialect : String) : String :=
  let d := Text.trim dialect
  Text.upper (if d.isEmpty then standardDialect else d)

def system (dialect : String) : String :=
  Text.join " "
    ["You are an expert SQL generator.",
      "Current SQL dialect: " ++ dialectLabel dialect ++ ".",
      "Return exactly one valid SQL statement and nothing else: no explanations, no markdown " ++
        "fences.",
      "Use only tables and columns that appear in the provided schema; never invent names.",
      "Qualify columns with their table name or alias when more than one table is involved.",
      "Do not produce data-modifying or DDL statements (DROP, DELETE, ALTER, UPDATE, INSERT, " ++
        "...) unless the request explicitly asks for them."]

/-- The request after the outline of a schema. -/
def user (dialect request outline : String) : String :=
  let schema := Text.trim outline
  Text.join "\n"
    ["You are an SQL assistant.",
      "Generate an SQL query for the " ++ dialectLabel dialect ++ " dialect.",
      "Database schema:",
      if schema.isEmpty then "(empty)" else schema,
      "User request:",
      "\"" ++ Text.trim request ++ "\""]

end QueryGate.Prompt
