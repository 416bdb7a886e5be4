import QueryGate.Ddl.Declaration

/-!
Reading statements. Declarations of tables are read in full; of other statements it only matters
where they end.
-/

namespace QueryGate.Ddl

open Reader

section

variable (d : Dialect)

/-! ### Other statements -/

def names : Reader Unit := do
  let _ ← commaList qualifiedName

def createView : Reader Unit := do
  let _ ← maybe (keyword "MATERIALIZED")
  keyword "VIEW"
  let _ ← maybe (phrase ["IF", "NOT", "EXISTS"])
  let _ ← qualifiedName
  let _ ← maybe columnNames
  keyword "AS"
  (inner d).query
  let _ ← maybe (do phrase ["WITH", "NO", "SCHEMA", "BINDING"])

/-- The rest of a function after the word for it, in the dialects that have them. -/
def createFunction : Reader Unit := do
  if d ≠ .generic && d ≠ .postgres then fail
  let parameter : Reader Unit := do
    let _ ← maybe (anyOf ["IN", "OUT", "INOUT"])
    first [(do let _ ← wordName; let _ ← (inner d).type), (do let _ ← (inner d).type)]
    let _ ← maybe (do first [keyword "DEFAULT", symbol "="]; expression d)
  keyword "FUNCTION"
  let _ ← qualifiedName
  parens (do let _ ← maybe (commaList parameter))
  let _ ← maybe (do keyword "RETURNS"; let _ ← (inner d).type)
  let _ ← many (first
    [(do keyword "AS"; first [literal, (do let _ ← string)]),
      (do keyword "LANGUAGE"; let _ ← name),
      anyOf ["IMMUTABLE", "STABLE", "VOLATILE", "STRICT"],
      phrase ["CALLED", "ON", "NULL", "INPUT"],
      phrase ["RETURNS", "NULL", "ON", "NULL", "INPUT"],
      (do keyword "PARALLEL"; anyOf ["UNSAFE", "RESTRICTED", "SAFE"]),
      (do keyword "RETURN"; expression d)])

def createIndex : Reader Unit := do
  let _ ← maybe (keyword "UNIQUE")
  keyword "INDEX"
  let _ ← maybe (keyword "CONCURRENTLY")
  let _ ← maybe (phrase ["IF", "NOT", "EXISTS"])
  if !(← ahead (keyword "ON")) then
    let _ ← qualifiedName
  keyword "ON"
  let _ ← qualifiedName
  let _ ← maybe indexMethod
  let _ ← parens (commaList (keyEntry d))
  let _ ← maybe (do keyword "INCLUDE"; columnNames)
  let _ ← maybe (do keyword "WHERE"; expression d)

/-- A type under a name of its own, with the conditions on its values. -/
def createDomain : Reader Unit := do
  keyword "DOMAIN"
  let _ ← qualifiedName
  keyword "AS"
  let _ ← (inner d).type
  let _ ← maybe (do keyword "COLLATE"; let _ ← name)
  let _ ← maybe (do keyword "DEFAULT"; expression d)
  let _ ← many (tableConstraint d)

def createSequence : Reader Unit := do
  keyword "SEQUENCE"
  let _ ← maybe (phrase ["IF", "NOT", "EXISTS"])
  let _ ← qualifiedName
  let _ ← maybe (do keyword "AS"; let _ ← (inner d).type)
  sequenceOptions
  let _ ← maybe (do phrase ["OWNED", "BY"]; let _ ← qualifiedName)

/-- A type of some values, or of some parts. -/
def createType : Reader Unit := do
  keyword "TYPE"
  let _ ← qualifiedName
  keyword "AS"
  let part : Reader Unit := do
    let _ ← name
    let _ ← (inner d).type
    let _ ← maybe (do keyword "COLLATE"; let _ ← qualifiedName)
  first
    [(do keyword "ENUM"; parens (do let _ ← maybe (commaList string))),
      parens (do let _ ← maybe (commaList part))]

def createVirtualTable : Reader Unit := do
  phrase ["VIRTUAL", "TABLE"]
  let _ ← maybe (phrase ["IF", "NOT", "EXISTS"])
  let _ ← qualifiedName
  keyword "USING"
  let _ ← name
  let _ ← maybe columnNames

/-- What may also be put in place of something else. -/
def createReplaceable : Reader Unit :=
  first [createView d, createFunction d, createDomain d]

def createOther : Reader Unit :=
  first
    [createIndex d, createSequence d, createType d, createVirtualTable,
      (do
        anyOf ["SCHEMA", "DATABASE", "EXTENSION"]
        let _ ← maybe (phrase ["IF", "NOT", "EXISTS"])
        let _ ← qualifiedName),
      (do
        keyword "ROLE"
        let _ ← maybe (phrase ["IF", "NOT", "EXISTS"])
        names)]

/-- What CREATE makes, other than a trigger. -/
def create : Reader Statement := do
  keyword "CREATE"
  let replaces ← allowed (phrase ["OR", "REPLACE"])
  let _ ← maybe (anyOf ["LOCAL", "GLOBAL"])
  let _ ← maybe (keyword "TRANSIENT")
  let _ ← maybe (anyOf ["TEMP", "TEMPORARY"])
  first
    [(do
        keyword "TABLE"
        return .createTable (← createTable d)),
      (do return .createTable (← createExternalTable d)),
      (do
        createReplaceable d
        return .other),
      (do
        if replaces then fail
        createOther d
        return .other)]

def dropStatement : Reader Unit := do
  keyword "DROP"
  let _ ← maybe (keyword "TEMPORARY")
  let _ ← maybe (keyword "MATERIALIZED")
  anyOf ["TABLE", "VIEW", "INDEX", "SCHEMA", "SEQUENCE", "TYPE", "ROLE", "DATABASE", "EXTENSION",
    "DOMAIN", "FUNCTION", "PROCEDURE", "TRIGGER"]
  let _ ← maybe (phrase ["IF", "EXISTS"])
  let _ ← commaList (do
    let _ ← qualifiedName
    let _ ← maybe (parens (do let _ ← maybe (commaList (inner d).type))))
  let _ ← maybe (do keyword "ON"; let _ ← qualifiedName)
  let _ ← maybe (anyOf ["CASCADE", "RESTRICT"])
  let _ ← maybe (keyword "PURGE")

def alterAction : Reader Unit :=
  let cascade : Reader Unit := do
    let _ ← maybe (anyOf ["CASCADE", "RESTRICT"])
  first
    [(do keyword "ADD"; let _ ← tableConstraint d),
      (do
        keyword "ADD"
        let _ ← maybe (keyword "COLUMN")
        let _ ← maybe (phrase ["IF", "NOT", "EXISTS"])
        let _ ← column d
        let _ ← maybe (first [keyword "FIRST", (do keyword "AFTER"; let _ ← name)])),
      (do
        phrase ["DROP", "CONSTRAINT"]
        let _ ← maybe (phrase ["IF", "EXISTS"])
        let _ ← name
        cascade),
      phrase ["DROP", "PRIMARY", "KEY"],
      (do
        keyword "DROP"
        let _ ← maybe (keyword "COLUMN")
        let _ ← maybe (phrase ["IF", "EXISTS"])
        let _ ← name
        cascade),
      (do keyword "RENAME"; anyOf ["TO", "AS"]; let _ ← qualifiedName),
      (do
        keyword "RENAME"
        let _ ← maybe (anyOf ["COLUMN", "CONSTRAINT"])
        let _ ← name
        keyword "TO"
        let _ ← name),
      (do
        keyword "ALTER"
        let _ ← maybe (keyword "COLUMN")
        let _ ← name
        first
          [phrase ["SET", "NOT", "NULL"], phrase ["DROP", "NOT", "NULL"],
            phrase ["DROP", "DEFAULT"],
            (do phrase ["SET", "DEFAULT"]; expression d),
            (do
              let _ ← maybe (phrase ["SET", "DATA"])
              keyword "TYPE"
              let _ ← (inner d).type
              let _ ← maybe (do keyword "USING"; expression d))]),
      (do phrase ["OWNER", "TO"]; let _ ← name),
      (do
        anyOf ["ENABLE", "DISABLE"]
        phrase ["ROW", "LEVEL", "SECURITY"]),
      (do
        anyOf ["MODIFY", "CHANGE"]
        let _ ← maybe (keyword "COLUMN")
        let _ ← maybe (do let _ ← name; let _ ← ahead wordName)
        let _ ← (inner d).type
        let _ ← columnOptions d)]

def alterTable : Reader Unit := do
  phrase ["ALTER", "TABLE"]
  let _ ← maybe (phrase ["IF", "EXISTS"])
  let _ ← maybe (keyword "ONLY")
  let _ ← qualifiedName
  let _ ← commaList (alterAction d)

def alterOther : Reader Unit := do
  keyword "ALTER"
  first
    [(do
        keyword "INDEX"
        let _ ← qualifiedName
        phrase ["RENAME", "TO"]
        let _ ← qualifiedName),
      (do
        keyword "VIEW"
        let _ ← qualifiedName
        let _ ← maybe columnNames
        keyword "AS"
        (inner d).query),
      (do
        keyword "TYPE"
        let _ ← qualifiedName
        first
          [(do phrase ["RENAME", "TO"]; let _ ← name),
            (do phrase ["RENAME", "VALUE"]; let _ ← name; keyword "TO"; let _ ← name),
            (do
              phrase ["ADD", "VALUE"]
              let _ ← maybe (phrase ["IF", "NOT", "EXISTS"])
              let _ ← name
              let _ ← maybe (do anyOf ["BEFORE", "AFTER"]; name))])]

def returning : Reader Unit := do
  let _ ← maybe (do keyword "RETURNING"; let _ ← commaList (selectItem (inner d)))

def assignment : Reader Unit := do
  first [columnNames, (do let _ ← qualifiedName)]
  symbol "="
  expression d

def insert : Reader Unit := do
  first [(do keyword "INSERT"; let _ ← maybe (do keyword "OR"; word)), keyword "REPLACE"]
  let _ ← maybe (keyword "IGNORE")
  let _ ← maybe (keyword "INTO")
  let _ ← maybe (keyword "TABLE")
  let _ ← qualifiedName
  let _ ← maybe columnNames
  first [phrase ["DEFAULT", "VALUES"], (inner d).query]
  let _ ← maybe (do
    phrase ["ON", "CONFLICT"]
    let _ ← maybe columnNames
    keyword "DO"
    first [keyword "NOTHING",
      (do
        phrase ["UPDATE", "SET"]
        let _ ← commaList (assignment d)
        let _ ← maybe (do keyword "WHERE"; expression d))])
  returning d

def update : Reader Unit := do
  keyword "UPDATE"
  joinedTables (inner d) bracketDepth
  keyword "SET"
  let _ ← commaList (assignment d)
  let _ ← maybe (fromClause (inner d))
  let _ ← maybe (do keyword "WHERE"; expression d)
  returning d

def delete : Reader Unit := do
  keyword "DELETE"
  fromClause (inner d)
  let _ ← maybe (do
    keyword "USING"
    let _ ← commaList (joinedTables (inner d) bracketDepth))
  let _ ← maybe (do keyword "WHERE"; expression d)
  returning d

def truncate : Reader Unit := do
  keyword "TRUNCATE"
  let _ ← maybe (keyword "TABLE")
  let _ ← maybe (keyword "ONLY")
  names
  let _ ← maybe (do anyOf ["RESTART", "CONTINUE"]; keyword "IDENTITY")
  let _ ← maybe (anyOf ["CASCADE", "RESTRICT"])

def transaction : Reader Unit :=
  let work : Reader Unit := do
    let _ ← maybe (anyOf ["TRANSACTION", "WORK"])
  first
    [phrase ["START", "TRANSACTION"], (do keyword "BEGIN"; work),
      (do anyOf ["COMMIT", "END"]; work),
      (do
        keyword "ROLLBACK"
        work
        let _ ← maybe (do
          keyword "TO"
          let _ ← maybe (keyword "SAVEPOINT")
          let _ ← name)),
      (do keyword "SAVEPOINT"; let _ ← name),
      (do
        keyword "RELEASE"
        let _ ← maybe (keyword "SAVEPOINT")
        let _ ← name)]

def comment : Reader Unit := do
  phrase ["COMMENT", "ON"]
  anyOf ["TABLE", "COLUMN", "EXTENSION", "SCHEMA", "DATABASE", "VIEW", "INDEX", "TYPE", "ROLE"]
  let _ ← qualifiedName
  keyword "IS"
  first [keyword "NULL", (do let _ ← string)]

def privileges : Reader Unit := do
  let privilege : Reader Unit := do
    word
    let _ ← maybe columnNames
  let what : Reader Unit := do
    first [(do keyword "ALL"; let _ ← maybe (keyword "PRIVILEGES")),
      (do let _ ← commaList privilege)]
    keyword "ON"
    let _ ← maybe (anyOf ["TABLE", "SCHEMA", "SEQUENCE", "DATABASE"])
    names
  first
    [(do
        keyword "GRANT"
        what
        keyword "TO"
        names
        let _ ← maybe (phrase ["WITH", "GRANT", "OPTION"])),
      (do
        keyword "REVOKE"
        what
        keyword "FROM"
        names
        let _ ← maybe (anyOf ["CASCADE", "RESTRICT"]))]

def setting : Reader Unit :=
  first
    [(do
        if d = .sqlite || d = .clickHouse then fail
        phrase ["SET", "NAMES"]
        first [keyword "DEFAULT",
          (do
            let _ ← name
            let _ ← maybe (do keyword "COLLATE"; let _ ← string))]),
      (do phrase ["SET", "TIME", "ZONE"]; expression d),
      (do
        keyword "SET"
        let _ ← maybe (anyOf ["SESSION", "LOCAL", "GLOBAL"])
        let _ ← qualifiedName
        first [symbol "=", keyword "TO"]
        expressions (inner d)),
      (do keyword "USE"; let _ ← qualifiedName),
      (do
        keyword "PRAGMA"
        let _ ← qualifiedName
        let value : Reader Unit := first [(do let _ ← number), (do let _ ← string), symbol "?"]
        let _ ← maybe (first [(do symbol "="; value), parens value]))]

def otherStatement : Reader Unit :=
  first
    [(inner d).query, dropStatement d, alterTable d, alterOther d, insert d, update d, delete d,
      truncate, transaction, comment, privileges, setting d,
      (do
        keyword "ANALYZE"
        let _ ← maybe (keyword "TABLE")
        let _ ← qualifiedName),
      phrase ["SHOW", "TABLES"],
      (do
        keyword "EXPLAIN"
        let _ ← maybe (keyword "ANALYZE")
        (inner d).query)]

/-- What follows the word for a trigger: its events and what it does. -/
def createTrigger : Reader Unit := do
  if d = .clickHouse then fail
  keyword "CREATE"
  let _ ← maybe (phrase ["OR", "REPLACE"])
  let _ ← maybe (anyOf ["TEMP", "TEMPORARY"])
  let _ ← maybe (keyword "CONSTRAINT")
  keyword "TRIGGER"
  let _ ← qualifiedName
  let _ ← maybe (first [anyOf ["BEFORE", "AFTER", "FOR"], phrase ["INSTEAD", "OF"]])
  let event : Reader Unit := first
    [anyOf ["INSERT", "DELETE", "TRUNCATE"],
      (do
        keyword "UPDATE"
        let _ ← maybe (do keyword "OF"; let _ ← commaList name))]
  let _ ← separated (keyword "OR") event
  keyword "ON"
  let _ ← qualifiedName
  let _ ← maybe (do keyword "FROM"; let _ ← qualifiedName)
  characteristics
  let _ ← maybe (do
    keyword "FOR"
    let _ ← maybe (keyword "EACH")
    anyOf ["ROW", "STATEMENT"])
  let _ ← maybe (do keyword "WHEN"; expression d)
  first
    [(do
        keyword "EXECUTE"
        anyOf ["FUNCTION", "PROCEDURE"]
        let _ ← qualifiedName
        let _ ← maybe (parens (do let _ ← maybe (expressions (inner d))))),
      (do
        keyword "BEGIN"
        let _ ← many (do otherStatement d; symbol ";")
        keyword "END")]

def statement : Reader Statement :=
  first
    [create d,
      (do
        first [createTrigger d, otherStatement d]
        return .other)]

/-- Statements with semicolons between them. The word END after one of them ends the text. -/
def statementsFrom : Nat → Reader (List Statement)
  | 0 => fail
  | n + 1 => do
    let _ ← many (symbol ";")
    if ← finished then return []
    let s ← statement d
    if ← finished then return [s]
    else if ← ahead (symbol ";") then return s :: (← statementsFrom n)
    else if ← ahead (keyword "END") then return [s]
    else fail

/-- The statements of a text, if all of it can be read. -/
def statements? (sql : String) : Option (List Statement) := do
  let ts ← tokens? d sql
  let (ss, _) ← statementsFrom d (ts.length + 1) ts
  return ss

end

end QueryGate.Ddl
