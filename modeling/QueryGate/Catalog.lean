import QueryGate.Identifier
import QueryGate.OrderedMap

/-!
The tables of a database and their columns. Names count up to normal form, so a catalog has at most
one table, and a table at most one column, of each normal form once it is normalized.
-/

namespace QueryGate

structure Column where
  name : String
  type? : Option String
  nullable? : Option Bool
  deriving DecidableEq, Repr

namespace Column

def ofName (name : String) : Column := ⟨name, none, none⟩

def ofType (name type : String) (nullable : Bool) : Column := ⟨name, some type, some nullable⟩

def normalName (c : Column) : String := Identifier.normalize c.name

end Column

structure ForeignKey where
  column : String
  refTable : String
  refColumn : String
  deriving DecidableEq, Repr

structure Table where
  columns : List Column
  primaryKey : List String
  foreignKeys : List ForeignKey
  deriving DecidableEq, Repr

namespace Table

def empty : Table := ⟨[], [], []⟩

/-- Whether a column has the normal form `column`. -/
def hasColumn (t : Table) (column : String) : Bool := t.columns.any (·.normalName = column)

/-- The first column of each normal form that is not among `seen`. -/
def distinct (seen : List String) : List Column → List Column
  | [] => []
  | c :: cs =>
    if c.normalName ∈ seen then distinct seen cs
    else c :: distinct (c.normalName :: seen) cs

def normalize (t : Table) : Table := { t with columns := distinct [] t.columns }

end Table

/-- Tables under their names, in the order in which they were declared. -/
abbrev Catalog := OrderedMap String Table

namespace Catalog

/-- Tables under the normal forms of their names; of several with one normal form the last
counts. -/
def normalize (c : Catalog) : Catalog :=
  .ofList (c.entries.map fun e => (Identifier.normalize e.1, e.2.normalize))

end Catalog

end QueryGate
