/-!
What a script of declarations says, as far as a catalog takes it up: tables with their columns, the
options of each column, and the constraints of the whole table.
-/

namespace QueryGate.Ddl

/-- A part of a qualified name: a name, or a call that gives one. -/
inductive NamePart
  | name (text : String)
  | call (text : String)
  deriving DecidableEq, Repr

/-- A reference to other columns. A column that refers by itself lists no columns of its own. -/
structure ReferenceClause where
  columns : List String
  table : List NamePart
  referred : List String
  deriving DecidableEq, Repr

inductive ColumnOption
  | notNull
  | primaryKey
  | references (clause : ReferenceClause)
  | other
  deriving DecidableEq, Repr

structure ColumnDeclaration where
  name : String
  type : String
  options : List ColumnOption
  deriving DecidableEq, Repr

/-- An entry of a key: a column, a qualified column, or an expression. -/
inductive KeyEntry
  | column (name : String)
  | path (names : List String)
  | expression
  deriving DecidableEq, Repr

inductive TableConstraint
  | primaryKey (entries : List KeyEntry)
  | foreignKey (clause : ReferenceClause)
  | other
  deriving DecidableEq, Repr

structure TableDeclaration where
  name : List NamePart
  columns : List ColumnDeclaration
  constraints : List TableConstraint
  deriving DecidableEq, Repr

inductive Statement
  | createTable (table : TableDeclaration)
  | other
  deriving DecidableEq, Repr

end QueryGate.Ddl
