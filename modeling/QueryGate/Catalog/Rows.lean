import QueryGate.Catalog
import QueryGate.Text.Case

/-!
Catalogs from the rows that a database lists about itself. Rows of tables that are not listed do not
count.
-/

namespace QueryGate

structure ColumnRow where
  table : String
  column : String
  type : String
  nullable : String
  deriving DecidableEq, Repr

structure KeyRow where
  table : String
  column : String
  deriving DecidableEq, Repr

structure ForeignKeyRow where
  table : String
  column : String
  refTable : String
  refColumn : String
  deriving DecidableEq, Repr

namespace ColumnRow

/-- Nullable columns are flagged YES. -/
def toColumn (r : ColumnRow) : Column :=
  .ofType r.column r.type (Text.eqIgnoringAsciiCase r.nullable "YES")

end ColumnRow

namespace Catalog

/-- Adds the content of a row to the table that it names. -/
def extend {ρ : Type} (table : ρ → String) (add : ρ → Table → Table) (c : Catalog) (r : ρ) :
    Catalog :=
  c.modify (table r) (add r)

def ofRows (names : List String) (columns : List ColumnRow) (primaryKeys : List KeyRow)
    (foreignKeys : List ForeignKeyRow) : Catalog :=
  let c : Catalog := .ofList (names.map (·, Table.empty))
  let c := columns.foldl (extend ColumnRow.table fun r t =>
    { t with columns := t.columns ++ [r.toColumn] }) c
  let c := primaryKeys.foldl (extend KeyRow.table fun r t =>
    { t with primaryKey := t.primaryKey ++ [r.column] }) c
  let c := foreignKeys.foldl (extend ForeignKeyRow.table fun r t =>
    { t with foreignKeys := t.foreignKeys ++ [⟨r.column, r.refTable, r.refColumn⟩] }) c
  c.normalize

end Catalog

end QueryGate
