import QueryGate.Text.Blank
import QueryGate.Text.Case

/-!
The spoken variants of SQL whose table declarations can be read.
-/

namespace QueryGate

inductive Dialect
  | generic
  | mySql
  | postgres
  | sqlite
  | clickHouse
  deriving DecidableEq, Repr

namespace Dialect

/-- The dialect of a name; a name that is not known gets the generic one. -/
def ofName (name : String) : Dialect :=
  let n := Text.lower (Text.trim name)
  if n = "postgres" ∨ n = "postgresql" ∨ n = "pg" then .postgres
  else if n = "mysql" ∨ n = "mariadb" then .mySql
  else if n = "sqlite" ∨ n = "sqlite3" then .sqlite
  else if n = "clickhouse" then .clickHouse
  else .generic

/-- The generic dialect also stands for no name at all. -/
def ofName? (name? : Option String) : Dialect := (name?.map ofName).getD .generic

end Dialect

end QueryGate
