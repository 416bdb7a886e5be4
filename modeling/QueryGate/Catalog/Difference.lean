import QueryGate.Catalog

/-!
What changes from one catalog to another. Tables are compared by name, columns by normal form;
types are not compared.
-/

namespace QueryGate

structure TableChange where
  table : String
  addedColumns : List String
  removedColumns : List String
  deriving DecidableEq, Repr

structure Difference where
  added : List String
  removed : List String
  changed : List TableChange
  deriving DecidableEq, Repr

namespace Difference

def isEmpty (d : Difference) : Bool := d.added.isEmpty && d.removed.isEmpty && d.changed.isEmpty

/-- The names of columns of `s` that `t` has under no spelling. -/
def columnsLost (s t : Table) : List String :=
  (s.columns.filter fun c => !t.hasColumn c.normalName).map Column.name

def ofTables? (table : String) (old new : Table) : Option TableChange :=
  let change : TableChange := ⟨table, columnsLost new old, columnsLost old new⟩
  if change.addedColumns.isEmpty && change.removedColumns.isEmpty then none else some change

/-- Added and changed tables in the order of `new`, removed ones in the order of `old`. -/
def between (old new : Catalog) : Difference where
  added := new.keys.filter fun name => !old.contains name
  removed := old.keys.filter fun name => !new.contains name
  changed := new.entries.filterMap fun e => (old.get? e.1).bind fun t => ofTables? e.1 t e.2

end Difference

end QueryGate
