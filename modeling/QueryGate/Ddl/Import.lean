import QueryGate.Catalog
import QueryGate.Ddl.Statement
import QueryGate.Text.Case

/-!
The catalog that declarations make. Names of tables and keys are put into lower case, names of
columns keep their spelling.
-/

namespace QueryGate.Ddl

/-- The last part of a qualified name, when it is a name. -/
def tableName? (parts : List NamePart) : Option String :=
  match parts.getLast? with
  | some (.name text) => some (Text.lower text)
  | _ => none

/-- Pairs the referring columns with the referred ones; `own` refers when the clause lists none. -/
def ReferenceClause.foreignKeys (own : List String) (r : ReferenceClause) : List ForeignKey :=
  match tableName? r.table with
  | none => []
  | some table =>
    let columns := if r.columns.isEmpty then own else r.columns
    (columns.zip r.referred).map fun p => ⟨Text.lower p.1, table, Text.lower p.2⟩

namespace ColumnDeclaration

/-- A column may be null unless it is declared not to be, or is the primary key. -/
def nullable (c : ColumnDeclaration) : Bool :=
  c.options.all fun o => o ≠ .notNull && o ≠ .primaryKey

def toColumn (c : ColumnDeclaration) : Column := .ofType c.name c.type c.nullable

def keyColumns (c : ColumnDeclaration) : List String :=
  (c.options.filter (· = .primaryKey)).map fun _ => Text.lower c.name

def foreignKeys (c : ColumnDeclaration) : List ForeignKey :=
  c.options.flatMap fun
    | .references r => r.foreignKeys [c.name]
    | _ => []

end ColumnDeclaration

/-- The column that an entry of a key names. -/
def KeyEntry.column? : KeyEntry → Option String
  | .column name => some (Text.lower name)
  | .path names => names.getLast?.map Text.lower
  | .expression => none

namespace TableConstraint

def keyColumns : TableConstraint → List String
  | .primaryKey entries => entries.filterMap KeyEntry.column?
  | _ => []

def foreignKeys : TableConstraint → List ForeignKey
  | .foreignKey r => r.foreignKeys r.columns
  | _ => []

end TableConstraint

/-- Keys that columns declare come before those of the whole table. -/
def TableDeclaration.toTable (t : TableDeclaration) : Table where
  columns := t.columns.map ColumnDeclaration.toColumn
  primaryKey :=
    t.columns.flatMap ColumnDeclaration.keyColumns ++
      t.constraints.flatMap TableConstraint.keyColumns
  foreignKeys :=
    t.columns.flatMap ColumnDeclaration.foreignKeys ++
      t.constraints.flatMap TableConstraint.foreignKeys

def Statement.entry? : Statement → Option (String × Table)
  | .createTable t => (tableName? t.name).map (·, t.toTable)
  | .other => none

/-- The tables that statements declare; a later declaration replaces an earlier one. -/
def catalog (statements : List Statement) : Catalog :=
  .ofList (statements.filterMap Statement.entry?)

end QueryGate.Ddl
