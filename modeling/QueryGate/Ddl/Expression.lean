import QueryGate.Ddl.DataType

/-!
Expressions and queries, as far as declarations hold them. Only whether a text is one matters, and
for an expression whether it is the bare name of a column.
-/

namespace QueryGate.Ddl

open Reader

/-- What an expression is: a name, names with points between them, or something else. -/
inductive Shape
  | name (n : String)
  | path (ns : List String)
  | other
  deriving DecidableEq, Repr

/-- The readers of what may stand inside something else. -/
structure Inner where
  expression : Reader Shape
  query : Reader Unit
  type : Reader String

def word : Reader Unit :=
  token fun
    | .word _ => some ()
    | _ => none

def anyOf (ks : List String) : Reader Unit :=
  token fun
    | .word text => if Text.upper text ∈ ks then some () else none
    | _ => none

def anySymbol (ss : List String) : Reader Unit :=
  token fun
    | .symbol s => if s ∈ ss then some () else none
    | _ => none

/-- A name that no keyword of `reserved` spells. -/
def nameExcept (reserved : List String) : Reader Unit :=
  token fun
    | .word text => if Text.upper text ∈ reserved then none else some ()
    | .quotedName .. | .string _ | .doubleString _ => some ()
    | _ => none

def afterColumn : List String :=
  ["WITH", "EXPLAIN", "ANALYZE", "SELECT", "WHERE", "GROUP", "SORT", "HAVING", "ORDER", "TOP",
    "LATERAL", "VIEW", "LIMIT", "OFFSET", "FETCH", "UNION", "EXCEPT", "INTERSECT", "MINUS",
    "CLUSTER", "DISTRIBUTE", "RETURNING", "FROM", "INTO", "END"]

def afterTable : List String :=
  afterColumn ++ ["PIVOT", "UNPIVOT", "ON", "JOIN", "INNER", "CROSS", "FULL", "LEFT", "RIGHT",
    "NATURAL", "USING", "GLOBAL", "ANTI", "SEMI", "ASOF", "MATCH_CONDITION", "OUTER", "SET",
    "QUALIFY", "WINDOW", "FOR", "PARTITION", "PREWHERE", "SETTINGS", "FORMAT", "START", "CONNECT",
    "MATCH_RECOGNIZE", "SAMPLE", "TABLESAMPLE", "OPEN"]

/-- Another name for a column or a table. -/
def otherName (reserved : List String) : Reader Unit := do
  if ← allowed (keyword "AS") then
    let _ ← name
  else nameExcept reserved

section

variable (d : Dialect) (inner : Inner)

def expressions : Reader Unit := do
  let _ ← commaList inner.expression

/-- An expression and how it is sorted. -/
def sortItem : Reader Unit := do
  let _ ← inner.expression
  let _ ← maybe (anyOf ["ASC", "DESC"])
  let _ ← maybe (do keyword "NULLS"; anyOf ["FIRST", "LAST"])

def orderBy : Reader Unit := do
  phrase ["ORDER", "BY"]
  let _ ← commaList (sortItem inner)

def frameEnd : Reader Unit :=
  first [phrase ["CURRENT", "ROW"],
    (do
      let _ ← inner.expression
      anyOf ["PRECEDING", "FOLLOWING"]),
    (do keyword "UNBOUNDED"; anyOf ["PRECEDING", "FOLLOWING"])]

def window : Reader Unit :=
  parens do
    let _ ← maybe (nameExcept ["PARTITION", "ORDER", "ROWS", "RANGE", "GROUPS"])
    let _ ← maybe (do phrase ["PARTITION", "BY"]; expressions inner)
    let _ ← maybe (orderBy inner)
    let _ ← maybe do
      anyOf ["ROWS", "RANGE", "GROUPS"]
      first [(do keyword "BETWEEN"; frameEnd inner; keyword "AND"; frameEnd inner), frameEnd inner]

/-- What stands between the brackets of a function. -/
def callArguments : Reader Unit := do
  symbol "("
  let _ ← maybe (anyOf ["DISTINCT", "ALL"])
  let argument : Reader Unit := first
    [symbol "*",
      (do let _ ← name; symbol "=>"; let _ ← inner.expression),
      (do let _ ← inner.expression; let _ ← maybe (otherName ["FROM", "IN", "ORDER", "SEPARATOR"])),
      inner.query]
  let _ ← maybe (commaList argument)
  let _ ← maybe (orderBy inner)
  let _ ← maybe (do keyword "SEPARATOR"; let _ ← string)
  symbol ")"
  let _ ← maybe (do keyword "FILTER"; parens (do keyword "WHERE"; let _ ← inner.expression))
  let _ ← maybe (do keyword "OVER"; first [window inner, (do let _ ← name)])

def caseExpression : Reader Unit := do
  keyword "CASE"
  let case : Reader Unit := do
    keyword "WHEN"
    let _ ← inner.expression
    keyword "THEN"
    let _ ← inner.expression
  if !(← ahead (keyword "WHEN")) then
    let _ ← inner.expression
  case
  let _ ← many case
  let _ ← maybe (do keyword "ELSE"; let _ ← inner.expression)
  keyword "END"

/-- Functions whose arguments are separated by words. -/
def wordyCall : Reader Unit := do
  let e : Reader Unit := do
    let _ ← inner.expression
  first
    [(do anyOf ["CAST", "TRY_CAST", "SAFE_CAST"]
         parens (do e; keyword "AS"; let _ ← inner.type)),
      (do keyword "EXTRACT"; parens (do word; keyword "FROM"; e)),
      (do keyword "EXISTS"; parens inner.query),
      (do
        anyOf ["SUBSTRING", "SUBSTR"]
        parens (do
          e
          let _ ← maybe (do keyword "FROM"; e)
          let _ ← maybe (do keyword "FOR"; e))),
      (do
        keyword "TRIM"
        parens (do
          let _ ← maybe (anyOf ["BOTH", "LEADING", "TRAILING"])
          let _ ← maybe e
          let _ ← maybe (do keyword "FROM"; e))),
      (do anyOf ["CEIL", "FLOOR"]; parens (do e; let _ ← maybe (do keyword "TO"; word)))]

def constant : Reader Unit :=
  token fun
    | .number _ | .string _ | .doubleString _ | .literal => some ()
    | .word text => if Text.upper text ∈ ["NULL", "TRUE", "FALSE"] then some () else none
    | _ => none

/-- A name, or names with points between them, which may be called. -/
def reference : Reader Shape := do
  let n ← wordName
  let ns ← many (do symbol "."; name)
  if ← ahead (symbol "(") then
    callArguments inner
    return .other
  else if ns.isEmpty then return .name n.text
  else return .path (n.text :: ns.map Name.text)

def operand : Reader Shape :=
  let other (p : Reader Unit) : Reader Shape := do
    p
    return .other
  first
    [other (do
        first [anySymbol ["-", "+", "~", "!"], keyword "NOT"]
        let _ ← inner.expression),
      other (parens inner.query),
      other (parens (expressions inner)),
      other (caseExpression inner),
      other (wordyCall inner),
      other (do
        keyword "INTERVAL"
        first [constant, parens (expressions inner)]
        let _ ← maybe (anyOf ["YEAR", "MONTH", "WEEK", "DAY", "HOUR", "MINUTE", "SECOND"])),
      other (do
        keyword "ARRAY"
        symbol "["
        let _ ← maybe (expressions inner)
        symbol "]"),
      other (do anyOf ["DATE", "TIME", "TIMESTAMP", "DATETIME"]; let _ ← string),
      other constant,
      other (symbol "?"),
      other (do symbol ":"; word),
      reference inner]

def binaryOperators : List String :=
  ["=", "==", "<>", "!=", "<", ">", "<=", ">=", "+", "-", "*", "/", "%", "||", "&", "|", "^", "<<",
    ">>", "->", "->>", "#>", "#>>", "#-", "@>", "<@", "~", "~*", "!~", "!~*", "&&", "<=>", "**",
    "//", "#", "@", "?", ":="]

/-- What may follow an operand other than AND. -/
def suffixNotAnd : Reader Unit :=
  let arg : Reader Unit := do
    let _ ← operand inner
  first
    [(do
        anySymbol binaryOperators
        first
          [(do
              anyOf ["ANY", "ALL", "SOME"]
              parens (first [inner.query, expressions inner])),
            arg]),
      (do anyOf ["OR", "XOR", "DIV", "MOD"]; arg),
      (do
        keyword "IS"
        let _ ← maybe (keyword "NOT")
        first [anyOf ["NULL", "TRUE", "FALSE", "UNKNOWN", "NORMALIZED"],
          (do phrase ["DISTINCT", "FROM"]; arg)]),
      (do
        let _ ← maybe (keyword "NOT")
        first
          [(do keyword "IN"; parens (first [inner.query, expressions inner])),
            (do
              first [anyOf ["LIKE", "ILIKE", "RLIKE", "REGEXP"], phrase ["SIMILAR", "TO"]]
              arg
              let _ ← maybe (do keyword "ESCAPE"; let _ ← string))]),
      (do symbol "::"; let _ ← inner.type),
      (do phrase ["AT", "TIME", "ZONE"]; arg),
      (do keyword "COLLATE"; let _ ← qualifiedName),
      (do symbol "["; expressions inner; symbol "]")]

def suffix : Reader Unit :=
  first
    [suffixNotAnd inner,
      (do
        let _ ← maybe (keyword "NOT")
        keyword "BETWEEN"
        let _ ← operand inner
        let _ ← many (suffixNotAnd inner)
        keyword "AND"
        let _ ← operand inner),
      (do keyword "AND"; let _ ← operand inner)]

def readExpression : Reader Shape := do
  let shape ← operand inner
  let more ← many (suffix inner)
  return if more.isEmpty then shape else .other

/-! ### Queries -/

def columnNames : Reader Unit := do
  let _ ← parens (commaList name)

def selectItem : Reader Unit :=
  first
    [symbol "*",
      (do
        let _ ← wordName
        let _ ← many (do symbol "."; name)
        symbol "."
        symbol "*"),
      (do
        let shape ← inner.expression
        if shape = .name "FROM" || shape = .name "from" then fail
        let _ ← maybe (otherName afterColumn))]

def tableAlias : Reader Unit := do
  let _ ← maybe do
    otherName afterTable
    let _ ← maybe columnNames

def tableFactor (joined : Reader Unit) : Reader Unit :=
  first
    [(do
        let _ ← maybe (keyword "LATERAL")
        parens inner.query
        tableAlias),
      (do
        parens joined
        tableAlias),
      (do
        nameExcept afterTable
        let _ ← many (do symbol "."; name)
        let _ ← maybe (callArguments inner)
        tableAlias)]

def join (factor : Reader Unit) : Reader Unit := do
  let outer (k : String) : Reader Unit := do
    keyword k
    let _ ← maybe (keyword "OUTER")
    keyword "JOIN"
  first
    [(do phrase ["CROSS", "JOIN"]; factor),
      (do
        let _ ← maybe (keyword "NATURAL")
        first [keyword "JOIN", phrase ["INNER", "JOIN"], outer "LEFT", outer "RIGHT", outer "FULL"]
        factor
        let _ ← maybe (first [(do keyword "ON"; let _ ← inner.expression),
          (do keyword "USING"; columnNames)]))]

/-- Tables joined with one another; `depth` bounds how many brackets are around a join. -/
def joinedTables : Nat → Reader Unit
  | 0 => fail
  | depth + 1 => do
    let factor := tableFactor inner (joinedTables depth)
    factor
    let _ ← many (join inner factor)

def bracketDepth : Nat := 16

def fromClause : Reader Unit := do
  keyword "FROM"
  let _ ← commaList (joinedTables inner bracketDepth)

def select : Reader Unit := do
  keyword "SELECT"
  let _ ← maybe (first
    [(do
        keyword "DISTINCT"
        let _ ← maybe (do keyword "ON"; parens (expressions inner))),
      keyword "ALL"])
  let none? ← ahead (first [keyword "FROM", symbol ";"])
  if none? && (d = .generic || d = .postgres) then pure ()
  else
    let _ ← commaList (selectItem inner)
  let _ ← maybe (do keyword "INTO"; let _ ← qualifiedName)
  let _ ← maybe (fromClause inner)
  let _ ← maybe (do keyword "WHERE"; let _ ← inner.expression)
  let _ ← maybe (do phrase ["GROUP", "BY"]; expressions inner)
  let _ ← maybe (do keyword "HAVING"; let _ ← inner.expression)
  let _ ← maybe (do
    keyword "WINDOW"
    let _ ← commaList (do let _ ← name; keyword "AS"; window inner))

def rowList : Reader Unit := do
  let _ ← commaList (do
    let _ ← maybe (keyword "ROW")
    parens (do let _ ← maybe (expressions inner)))

def queryTerm : Reader Unit :=
  first [select d inner, parens inner.query, (do keyword "VALUES"; rowList inner),
    (do keyword "TABLE"; let _ ← qualifiedName)]

def readQuery : Reader Unit := do
  let _ ← maybe (do
    keyword "WITH"
    let _ ← maybe (keyword "RECURSIVE")
    let _ ← commaList (do
      let _ ← name
      let _ ← maybe columnNames
      keyword "AS"
      let _ ← maybe (first [keyword "MATERIALIZED", phrase ["NOT", "MATERIALIZED"]])
      parens inner.query))
  queryTerm d inner
  let _ ← many (do
    anyOf ["UNION", "INTERSECT", "EXCEPT", "MINUS"]
    let _ ← maybe (anyOf ["ALL", "DISTINCT"])
    queryTerm d inner)
  let _ ← maybe (orderBy inner)
  let limit : Reader Unit := first
    [(do
        keyword "LIMIT"
        let _ ← inner.expression
        let _ ← maybe (do symbol ","; let _ ← inner.expression)),
      (do
        keyword "OFFSET"
        let _ ← inner.expression
        let _ ← maybe (anyOf ["ROW", "ROWS"])),
      (do
        keyword "FETCH"
        anyOf ["FIRST", "NEXT"]
        let _ ← maybe inner.expression
        anyOf ["ROW", "ROWS"]
        keyword "ONLY")]
  let _ ← many limit
  let _ ← maybe (do keyword "FOR"; anyOf ["UPDATE", "SHARE"])

end

/-- How many expressions, queries and types may contain one another. -/
def nesting : Nat := 50

def innerAt (d : Dialect) : Nat → Inner
  | 0 => ⟨fail, fail, fail⟩
  | depth + 1 =>
    let inner := innerAt d depth
    ⟨readExpression inner, readQuery d inner, readType d (depth + 1)⟩

def inner (d : Dialect) : Inner := innerAt d nesting

end QueryGate.Ddl
