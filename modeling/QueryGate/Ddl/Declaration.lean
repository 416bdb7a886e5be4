import QueryGate.Ddl.Expression
import QueryGate.Ddl.Statement

/-!
Reading declarations of tables: columns with their options, constraints, and what follows them.
-/

namespace QueryGate

namespace Dialect

/-- Declarations of tables may contain indexes. -/
def hasInlineIndexes (d : Dialect) : Bool := d = .generic || d = .mySql

/-- Columns may be declared without a type. -/
def hasTypelessColumns (d : Dialect) : Bool := d = .sqlite

end Dialect

namespace Ddl

open Reader

section

variable (d : Dialect)

def expression : Reader Unit := do
  let _ ← (inner d).expression

def parts (names : List Name) : List NamePart := names.map fun n => .name n.text

/-! ### Constraints -/

/-- When a constraint is checked, and whether it is. -/
def characteristics : Reader Unit := do
  let _ ← many (first
    [phrase ["NOT", "DEFERRABLE"], keyword "DEFERRABLE",
      (do keyword "INITIALLY"; anyOf ["DEFERRED", "IMMEDIATE"]),
      keyword "ENFORCED", phrase ["NOT", "ENFORCED"]])

def referentialAction : Reader Unit :=
  first [anyOf ["RESTRICT", "CASCADE"],
    phrase ["SET", "NULL"], phrase ["NO", "ACTION"], phrase ["SET", "DEFAULT"]]

/-- The table and the columns after REFERENCES, and what happens when they change. -/
def referenceClause (columns : List String) : Reader ReferenceClause := do
  keyword "REFERENCES"
  let table ← qualifiedName
  let referred ← maybe (parens (commaList name))
  let _ ← many (first
    [(do keyword "MATCH"; anyOf ["FULL", "PARTIAL", "SIMPLE"]),
      (do phrase ["ON", "DELETE"]; referentialAction),
      (do phrase ["ON", "UPDATE"]; referentialAction)])
  characteristics
  return ⟨columns, parts table, (referred.getD []).map Name.text⟩

/-! ### Columns -/

def signed : Reader Unit := do
  let _ ← maybe (first [symbol "-", symbol "+"])
  let _ ← number

/-- How a sequence goes on. Its options have a fixed order. -/
def sequenceOptions : Reader Unit := do
  let _ ← maybe (do keyword "INCREMENT"; let _ ← maybe (keyword "BY"); signed)
  let bound (k : String) : Reader Unit := first [(do keyword k; signed), phrase ["NO", k]]
  let _ ← maybe (bound "MINVALUE")
  let _ ← maybe (bound "MAXVALUE")
  let _ ← maybe (do keyword "START"; let _ ← maybe (keyword "WITH"); signed)
  let _ ← maybe (do keyword "CACHE"; signed)
  let _ ← maybe (first [phrase ["NO", "CYCLE"], keyword "CYCLE"])

def generated : Reader Unit := do
  keyword "GENERATED"
  first
    [(do
        first [phrase ["ALWAYS", "AS", "IDENTITY"], phrase ["BY", "DEFAULT", "AS", "IDENTITY"]]
        let _ ← maybe (parens sequenceOptions)),
      (do
        phrase ["ALWAYS", "AS"]
        parens (expression d)
        if d = .postgres then keyword "STORED"
        else
          let _ ← maybe (anyOf ["STORED", "VIRTUAL"]))]

/-- An option of a column that the dialect knows. -/
def columnOption : Reader ColumnOption :=
  let other (p : Reader Unit) : Reader ColumnOption := do
    p
    return .other
  let within (ds : List Dialect) (p : Reader ColumnOption) : Reader ColumnOption :=
    if d ∈ ds then p else fail
  first
    [other (do
        first [phrase ["CHARACTER", "SET"], keyword "COLLATE"]
        let _ ← qualifiedName),
      (do phrase ["NOT", "NULL"]; return .notNull),
      other (do keyword "COMMENT"; let _ ← string),
      other (keyword "NULL"),
      other (do keyword "DEFAULT"; expression d),
      within [.clickHouse, .generic] (other (do
        first
          [(do anyOf ["MATERIALIZED", "ALIAS"]; expression d),
            (do keyword "EPHEMERAL"; let _ ← maybe (expression d))])),
      (do phrase ["PRIMARY", "KEY"]; characteristics; return .primaryKey),
      other (do
        keyword "UNIQUE"
        let _ ← maybe (anyOf ["KEY", "INDEX"])
        characteristics),
      (do return .references (← referenceClause [])),
      other (do keyword "CHECK"; parens (expression d)),
      within [.mySql, .generic] (other (keyword "AUTO_INCREMENT")),
      within [.sqlite, .generic] (other (keyword "AUTOINCREMENT")),
      within [.sqlite, .generic] (other (anyOf ["ASC", "DESC"])),
      within [.mySql, .generic] (other (do phrase ["ON", "UPDATE"]; expression d)),
      other (generated d),
      within [.mySql, .sqlite, .generic] (other (do
        keyword "AS"
        parens (expression d)
        let _ ← maybe (anyOf ["STORED", "VIRTUAL"]))),
      within [.mySql, .generic] (other (do keyword "SRID"; expression d)),
      within [.generic] (other (do
        keyword "IDENTITY"
        if ← ahead (symbol "(") then
          parens (do signed; symbol ","; signed))),
      within [.sqlite, .generic] (other (do
        phrase ["ON", "CONFLICT"]
        anyOf ["ROLLBACK", "ABORT", "FAIL", "IGNORE", "REPLACE"])),
      other (keyword "INVISIBLE")]

/-- A word of another dialect, which is passed over and ends the options of a column. -/
def foreignOption : Reader Unit :=
  first
    [(if d = .mySql || d = .generic then fail
      else first [keyword "AUTO_INCREMENT", phrase ["ON", "UPDATE"], keyword "SRID"]),
      (if d = .sqlite || d = .generic then fail else keyword "AUTOINCREMENT"),
      (if d = .generic then fail else keyword "IDENTITY")]

def columnOptions : Reader (List ColumnOption) := do
  let options ← many (first
    [(do
        keyword "CONSTRAINT"
        let _ ← name
        columnOption d),
      columnOption d])
  let _ ← maybe (foreignOption d)
  return options

/-- Whether a column goes on without a type. -/
def isTypeless : Reader Bool := do
  if !d.hasTypelessColumns then return false
  match ← peek? with
  | some (.word text) =>
    return Text.upper text ∈ ["CONSTRAINT", "PRIMARY", "NOT", "UNIQUE", "CHECK", "DEFAULT",
      "COLLATE", "REFERENCES", "GENERATED", "AS"]
  | some (.quotedName ..) => return false
  | _ => return true

def column : Reader ColumnDeclaration := do
  let n ← name
  let type ← if ← isTypeless d then pure "" else (inner d).type
  return ⟨n.text, type, ← columnOptions d⟩

/-! ### Constraints of a table -/

/-- An entry of a key, which may be sorted. -/
def keyEntry : Reader KeyEntry := do
  let shape ← (inner d).expression
  if !(← ahead (anyOf ["ASC", "DESC", "NULLS", "WITH"])) && (d = .generic || d = .postgres) then
    let _ ← maybe (do
      let _ ← qualifiedName
      let _ ← maybe (parens (expressions (inner d))))
  let _ ← maybe (anyOf ["ASC", "DESC"])
  let _ ← maybe (do keyword "NULLS"; anyOf ["FIRST", "LAST"])
  return match shape with
    | .name n => .column n
    | .path ns => .path ns
    | .other => .expression

def indexMethod : Reader Unit := do
  keyword "USING"
  let _ ← name

/-- The entries of a key after an optional name, and the options after them. -/
def keyEntries : Reader (List KeyEntry) := do
  let _ ← maybe name
  let _ ← maybe indexMethod
  let entries ← parens (commaList (keyEntry d))
  let _ ← many (first [indexMethod, (do keyword "COMMENT"; let _ ← string)])
  characteristics
  return entries

def tableConstraint : Reader TableConstraint := do
  let named ← allowed (do
    keyword "CONSTRAINT"
    let _ ← name)
  first
    [(do
        keyword "UNIQUE"
        let _ ← maybe (if d.hasInlineIndexes then anyOf ["KEY", "INDEX"] else fail)
        let _ ← maybe (do
          keyword "NULLS"
          let _ ← maybe (keyword "NOT")
          keyword "DISTINCT")
        let _ ← keyEntries d
        return .other),
      (do phrase ["PRIMARY", "KEY"]; return .primaryKey (← keyEntries d)),
      (do
        phrase ["FOREIGN", "KEY"]
        let _ ← maybe name
        let columns ← parens (commaList name)
        return .foreignKey (← referenceClause (columns.map Name.text))),
      (do
        keyword "CHECK"
        parens (expression d)
        let _ ← maybe (first [keyword "ENFORCED", phrase ["NOT", "ENFORCED"]])
        return .other),
      (do
        if named || !d.hasInlineIndexes then fail
        anyOf ["INDEX", "KEY"]
        let _ ← maybe (if ← ahead (keyword "USING") then fail else name)
        let _ ← maybe indexMethod
        let _ ← parens (commaList (keyEntry d))
        let _ ← many (first [indexMethod, (do keyword "COMMENT"; let _ ← string)])
        return .other),
      (do
        if named || !d.hasInlineIndexes then fail
        anyOf ["FULLTEXT", "SPATIAL"]
        let _ ← maybe (anyOf ["KEY", "INDEX"])
        let _ ← maybe name
        let _ ← parens (commaList (keyEntry d))
        return .other)]

/-- Whether the next entry of a table is a constraint, so that it is no column. -/
def constraintAhead : Reader Unit :=
  anyOf (["CONSTRAINT", "UNIQUE", "PRIMARY", "FOREIGN", "CHECK"] ++
    if d.hasInlineIndexes then ["INDEX", "KEY", "FULLTEXT", "SPATIAL"] else [])

inductive TableEntry
  | column (c : ColumnDeclaration)
  | constraint (c : TableConstraint)

def tableEntry : Reader TableEntry := do
  if ← ahead (constraintAhead d) then return .constraint (← tableConstraint d)
  else if ← ahead wordName then return .column (← column d)
  else fail

/-- The entries of a table between brackets, if there are any. -/
def tableEntries : Reader (List TableEntry) :=
  first
    [(do
        if ← ahead (symbol "(") then fail
        return []),
      (do symbol "("; symbol ")"; return []),
      parens (commaList (tableEntry d))]

/-! ### Tables -/

/-- Options of a table that have a value, by the words that name them. -/
def tableOptions : List (List String) :=
  [["DEFAULT", "CHARSET"], ["CHARSET"], ["DEFAULT", "CHARACTER", "SET"], ["CHARACTER", "SET"],
    ["DEFAULT", "COLLATE"], ["COLLATE"], ["DATA", "DIRECTORY"], ["INDEX", "DIRECTORY"],
    ["KEY_BLOCK_SIZE"], ["ROW_FORMAT"], ["PACK_KEYS"], ["STATS_AUTO_RECALC"],
    ["STATS_PERSISTENT"], ["STATS_SAMPLE_PAGES"], ["DELAY_KEY_WRITE"], ["COMPRESSION"],
    ["ENCRYPTION"], ["MAX_ROWS"], ["MIN_ROWS"], ["AUTOEXTEND_SIZE"], ["AVG_ROW_LENGTH"],
    ["CHECKSUM"], ["CONNECTION"], ["ENGINE_ATTRIBUTE"], ["PASSWORD"],
    ["SECONDARY_ENGINE_ATTRIBUTE"], ["INSERT_METHOD"], ["AUTO_INCREMENT"]]

def singleQuoted : Reader Unit :=
  token fun
    | .string _ => some ()
    | _ => none

def tableOption : Reader Unit :=
  let equals : Reader Unit := do
    let _ ← maybe (symbol "=")
  first
    [phrase ["START", "TRANSACTION"],
      (do keyword "COMMENT"; equals; singleQuoted),
      (do
        keyword "ENGINE"
        equals
        let _ ← wordName
        let _ ← maybe (parens (do let _ ← maybe (commaList name)))),
      (do
        keyword "TABLESPACE"
        equals
        first [(do let _ ← wordName), singleQuoted]),
      (do
        first (tableOptions.map phrase)
        equals
        first [constant, (do let _ ← name)])]

/-- The table that some entries declare. -/
def declaration (table : List Name) (entries : List TableEntry) : TableDeclaration :=
  let columns := entries.filterMap fun
    | .column c => some c
    | .constraint _ => none
  let constraints := entries.filterMap fun
    | .constraint c => some c
    | .column _ => none
  ⟨parts table, columns, constraints⟩

def createTable : Reader TableDeclaration := do
  let _ ← maybe (phrase ["IF", "NOT", "EXISTS"])
  let table ← qualifiedName
  let _ ← maybe (do phrase ["ON", "CLUSTER"]; name)
  let _ ← maybe (do keyword "LIKE"; let _ ← qualifiedName)
  let entries ← tableEntries d
  let _ ← maybe (phrase ["WITHOUT", "ROWID"])
  let _ ← maybe (do keyword "INHERITS"; parens (do let _ ← commaList qualifiedName))
  let withOptions ← allowed (do
    keyword "WITH"
    parens (do
      let _ ← commaList (do
        let _ ← name
        let _ ← maybe (do symbol "="; expression d))))
  let _ ← maybe (if d = .postgres || d = .generic then (do
    phrase ["PARTITION", "BY"]
    expression d) else fail)
  let _ ← many (if withOptions then fail else (do
    tableOption
    let _ ← maybe (symbol ",")))
  let _ ← maybe (if d = .clickHouse || d = .generic then (do
    phrase ["PRIMARY", "KEY"]
    expression d) else fail)
  let _ ← maybe (do
    phrase ["ORDER", "BY"]
    first [parens (do let _ ← maybe (expressions (inner d))), expression d])
  let _ ← maybe (do
    phrase ["ON", "COMMIT"]
    first [phrase ["DELETE", "ROWS"], phrase ["PRESERVE", "ROWS"], keyword "DROP"])
  let _ ← maybe (keyword "STRICT")
  let _ ← maybe (do
    let _ ← maybe (keyword "AS")
    (inner d).query)
  return declaration table entries

/-- A table whose rows are kept in files. -/
def createExternalTable : Reader TableDeclaration := do
  phrase ["EXTERNAL", "TABLE"]
  let _ ← maybe (phrase ["IF", "NOT", "EXISTS"])
  let table ← qualifiedName
  let entries ← tableEntries d
  let _ ← maybe (do phrase ["STORED", "AS"]; word)
  let _ ← maybe (do keyword "LOCATION"; let _ ← string)
  return declaration table entries

end

end Ddl

end QueryGate
