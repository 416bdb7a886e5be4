import QueryGate.Catalog

/-!
A catalog in plain lines, for a reader who has not seen the database.
-/

namespace QueryGate

def Column.outline (c : Column) : String :=
  "  - " ++ c.name ++ (c.type?.map (" " ++ ·)).getD "" ++
    (match c.nullable? with
      | some true => " NULL"
      | some false => " NOT NULL"
      | none => "") ++ "\n"

def ForeignKey.outline (k : ForeignKey) : String :=
  "  - " ++ k.column ++ " -> " ++ k.refTable ++ "." ++ k.refColumn ++ "\n"

def Table.outline (name : String) (t : Table) : String :=
  "Table: " ++ name ++ "\nColumns:\n" ++ String.join (t.columns.map Column.outline) ++
    (if t.primaryKey.isEmpty then ""
      else "Primary Key: (" ++ String.intercalate ", " t.primaryKey ++ ")\n") ++
    (if t.foreignKeys.isEmpty then ""
      else "Foreign Keys:\n" ++ String.join (t.foreignKeys.map ForeignKey.outline)) ++ "\n"

/-- The tables of a catalog under a line that names the dialect. -/
def Catalog.outline (dialect? : Option String) (c : Catalog) : String :=
  (match dialect? with
    | some dialect => "Database Schema (" ++ dialect ++ "):\n\n"
    | none => "Database Schema:\n\n") ++
    if c.isEmpty then "(no tables)\n"
    else String.join (c.entries.map fun e => e.2.outline e.1)

end QueryGate
