import QueryGate.Ddl.Reader

/-!
Column types in their canonical spelling. Types that are known are spelled alike however they were
written; a type of another name keeps its spelling.
-/

namespace QueryGate

namespace Dialect

/-- Types may be followed by brackets, which make arrays of them. -/
def hasBracketArrays (d : Dialect) : Bool := d = .generic || d = .postgres

/-- Whole numbers may be called signed. -/
def hasSignedTypes (d : Dialect) : Bool := d = .generic || d = .mySql

/-- Intervals may say which units they have. -/
def hasIntervalUnits (d : Dialect) : Bool := d = .generic || d = .postgres

/-- Types of shapes in the plane are known. -/
def hasShapes (d : Dialect) : Bool := d = .generic || d = .postgres

/-- Types of texts that are prepared for search are known. -/
def hasSearchTypes (d : Dialect) : Bool := d = .generic || d = .postgres

/-- Types that wrap other types are known. -/
def hasWrappers (d : Dialect) : Bool := d = .generic || d = .clickHouse

end Dialect

namespace Ddl

open Reader

/-- What may follow the name of a type. -/
inductive TypeArguments
  | none
  | length
  | textLength
  | precision
  | precisionAndScale
  | integer
  deriving DecidableEq, Repr

/-- A type that is known by one word. -/
structure KnownType where
  keyword : String
  spelling : String
  arguments : TypeArguments
  /-- It may be called unsigned. -/
  unsigned : Bool

def plainTypes : List KnownType :=
  (["BOOLEAN", "BOOL", "FLOAT4", "FLOAT64", "FLOAT8", "HUGEINT", "UHUGEINT", "UBIGINT",
    "USMALLINT", "UTINYINT", "TINYBLOB", "MEDIUMBLOB", "LONGBLOB", "UUID", "DATE", "JSON", "JSONB",
    "REGCLASS", "TEXT", "TINYTEXT", "MEDIUMTEXT", "LONGTEXT", "BYTEA", "INT64", "TRIGGER"].map
      fun k => ⟨k, k, .none, false⟩) ++
  ([("FLOAT32", "Float32"), ("INT16", "Int16"), ("INT32", "Int32"), ("INT128", "Int128"),
    ("INT256", "Int256"), ("UINT8", "UInt8"), ("UINT16", "UInt16"), ("UINT32", "UInt32"),
    ("UINT64", "UInt64"), ("UINT128", "UInt128"), ("UINT256", "UInt256"),
    ("DATE32", "Date32")].map fun p => ⟨p.1, p.2, .none, false⟩)

def knownTypes : List KnownType :=
  plainTypes ++
  (["TINYINT", "INT2", "SMALLINT", "MEDIUMINT", "INT", "INT4", "INT8", "INTEGER", "BIGINT"].map
    fun k => ⟨k, k, .integer, true⟩) ++
  (["FLOAT", "DECIMAL", "DEC"].map fun k => ⟨k, k, .precisionAndScale, true⟩) ++
  (["NUMERIC", "BIGNUMERIC", "BIGDECIMAL"].map fun k => ⟨k, k, .precisionAndScale, false⟩) ++
  (["VARCHAR", "NVARCHAR"].map fun k => ⟨k, k, .textLength, false⟩) ++
  (["CLOB", "BINARY", "BLOB", "BYTES", "VARBIT", "DATETIME", "TIMESTAMP_NTZ", "STRING",
    "TIMESTAMPTZ", "TIMETZ"].map fun k => ⟨k, k, .precision, false⟩) ++
  [⟨"VARBINARY", "VARBINARY", .length, false⟩, ⟨"REAL", "REAL", .none, true⟩]

/-- Names of shapes in the plane, which are spelled in lower case. -/
def shapes : List String := ["POINT", "LINE", "LSEG", "BOX", "PATH", "POLYGON", "CIRCLE"]

/-- A length in brackets, or the greatest one. -/
def readLength : Reader String :=
  parens (first [(do keyword "MAX"; return "MAX"), toString <$> natural])

/-- A length that may say what it counts. -/
def readTextLength : Reader String :=
  parens (first
    [(do keyword "MAX"; return "MAX"),
      (do
        let n ← natural
        let unit ← maybe (first
          [(do keyword "CHARACTERS"; return "CHARACTERS"), (do keyword "OCTETS"; return "OCTETS")])
        return toString n ++ (unit.map (" " ++ ·)).getD "")])

def readPrecision : Reader String := parens (toString <$> natural)

/-- A number with a sign, of which a plus is written as `plus`. -/
def readSigned (plus : String) : Reader String := do
  let sign ← maybe (first [(do symbol "-"; return "-"), (do symbol "+"; return plus)])
  return sign.getD "" ++ toString (← natural)

def readPrecisionAndScale : Reader String :=
  parens do
    let precision ← natural
    let scale ← maybe (do symbol ","; readSigned "")
    return toString precision ++ (scale.map ("," ++ ·)).getD ""

/-- Arguments in brackets, when there are any. They must be right once a bracket is open. -/
def bracketed (p : Reader String) : Reader String := do
  if ← ahead (symbol "(") then return "(" ++ (← p) ++ ")" else return ""

def readArguments : TypeArguments → Reader String
  | .none => return ""
  | .length => bracketed readLength
  | .textLength => bracketed readTextLength
  | .precision | .integer => bracketed readPrecision
  | .precisionAndScale => bracketed readPrecisionAndScale

def readKnown (d : Dialect) : Reader String := do
  let t ← token fun
    | .word text => knownTypes.find? (·.keyword = Text.upper text)
    | _ => none
  let arguments ← readArguments t.arguments
  let unsigned ← if t.unsigned then allowed (keyword "UNSIGNED") else pure false
  if t.arguments = .integer && !unsigned && d.hasSignedTypes then
    let _ ← allowed (keyword "SIGNED")
  return t.spelling ++ arguments ++ if unsigned then " UNSIGNED" else ""

/-- CHAR and CHARACTER, varying or large. -/
def readCharacter (k : String) : Reader String := do
  keyword k
  if ← allowed (keyword "VARYING") then return k ++ " VARYING" ++ (← bracketed readTextLength)
  else if ← allowed (phrase ["LARGE", "OBJECT"]) then
    return k ++ " LARGE OBJECT" ++ (← bracketed readPrecision)
  else return k ++ (← bracketed readTextLength)

def readBit : Reader String := do
  keyword "BIT"
  let varying ← allowed (keyword "VARYING")
  return "BIT" ++ (if varying then " VARYING" else "") ++ (← bracketed readPrecision)

def readDouble : Reader String := do
  keyword "DOUBLE"
  let rest ←
    if ← allowed (keyword "PRECISION") then pure " PRECISION"
    else bracketed readPrecisionAndScale
  return "DOUBLE" ++ rest ++ if ← allowed (keyword "UNSIGNED") then " UNSIGNED" else ""

/-- A time or a timestamp, with or without a zone. -/
def readTime (k : String) : Reader String := do
  keyword k
  let precision ← bracketed readPrecision
  let zone (w : String) : Reader String := do
    phrase [w, "TIME", "ZONE"]
    return " " ++ w ++ " TIME ZONE"
  let withZone ← maybe (first [zone "WITH", zone "WITHOUT"])
  return k ++ precision ++ withZone.getD ""

def intervalUnits : List (List String) :=
  [["YEAR", "TO", "MONTH"], ["DAY", "TO", "HOUR"], ["DAY", "TO", "MINUTE"], ["DAY", "TO", "SECOND"],
    ["HOUR", "TO", "MINUTE"], ["HOUR", "TO", "SECOND"], ["MINUTE", "TO", "SECOND"], ["YEAR"],
    ["MONTH"], ["DAY"], ["HOUR"], ["MINUTE"], ["SECOND"]]

def readInterval (d : Dialect) : Reader String := do
  keyword "INTERVAL"
  if d.hasIntervalUnits then
    let units ← maybe (first (intervalUnits.map fun ws => do
      phrase ws
      return Text.join " " ws))
    return "INTERVAL" ++ (units.map (" " ++ ·)).getD "" ++ (← bracketed readPrecision)
  else return "INTERVAL"

def readEnum (k : String) : Reader String := do
  keyword k
  let members ← parens (commaList do
    let name ← string
    let value ← maybe (do symbol "="; readSigned "+")
    return quoteWith '\'' name ++ (value.map (" = " ++ ·)).getD "")
  return k ++ "(" ++ Text.join ", " members ++ ")"

def readSet : Reader String := do
  keyword "SET"
  let members ← parens (commaList string)
  return "SET(" ++ Text.join ", " (members.map (quoteWith '\'')) ++ ")"

def readFixedString : Reader String := do
  keyword "FIXEDSTRING"
  return "FixedString(" ++ toString (← parens natural) ++ ")"

def readDatetime64 : Reader String := do
  keyword "DATETIME64"
  parens do
    let precision ← natural
    let zone ← maybe (do symbol ","; string)
    return "DateTime64(" ++ toString precision ++
      (zone.map fun z => ", '" ++ z ++ "'").getD "" ++ ")"

def readSignedness : Reader String := do
  let k ← first [(do keyword "SIGNED"; return "SIGNED"), (do keyword "UNSIGNED"; return "UNSIGNED")]
  return k ++ if ← allowed (keyword "INTEGER") then " INTEGER" else ""

def readShape : Reader String :=
  token fun
    | .word text => if Text.upper text ∈ shapes then some (Text.lowerAscii text) else none
    | _ => none

def searchTypes : List String := ["TSVECTOR", "TSQUERY"]

def readSearchType : Reader String :=
  first (searchTypes.map fun k => do
    keyword k
    return k)

/-- Types that take other types, which `inner` reads. -/
def readWrapper (d : Dialect) (inner : Reader String) : Reader String :=
  let wrap (k spelling : String) : Reader String := do
    keyword k
    return spelling ++ "(" ++ (← parens inner) ++ ")"
  let field : Reader String := first
    [(do
        let n ← wordName
        return n.written ++ " " ++ (← inner)),
      inner]
  let array : Reader String :=
    if d = .clickHouse then wrap "ARRAY" "Array"
    else do
      keyword "ARRAY"
      symbol "<"
      let t ← inner
      symbol ">"
      return "ARRAY<" ++ t ++ ">"
  let map : Reader String := do
    keyword "MAP"
    parens do
      let k ← inner
      symbol ","
      return "Map(" ++ k ++ ", " ++ (← inner) ++ ")"
  let fields (k spelling : String) : Reader String := do
    keyword k
    return spelling ++ "(" ++ Text.join ", " (← parens (commaList field)) ++ ")"
  if d.hasWrappers then
    first [array, wrap "NULLABLE" "Nullable", wrap "LOWCARDINALITY" "LowCardinality", map,
      fields "TUPLE" "Tuple", fields "NESTED" "Nested"]
  else array

/-- Words, numbers and strings in brackets after the name of a type; commas do not count. -/
def readModifiers : Reader (List String) := do
  symbol "("
  let items ← many (token fun
    | .word text => some [text]
    | .quotedName mark text => some [(Name.mk (some mark) text).written]
    | .number text | .string text => some [text]
    | .symbol s => if s = "," then some [] else none
    | _ => none)
  symbol ")"
  return items.flatten

def readCustom : Reader String := do
  let names ← separated (symbol ".") name
  let modifiers ← if ← ahead (symbol "(") then readModifiers else pure []
  return Text.join "." (names.map Name.written) ++
    if modifiers.isEmpty then "" else "(" ++ Text.join ", " modifiers ++ ")"

/-- Words that only begin a known type, so that what follows them must fit it. -/
def typeKeywords (d : Dialect) : List String :=
  knownTypes.map KnownType.keyword ++
    ["CHAR", "CHARACTER", "BIT", "DOUBLE", "TIME", "TIMESTAMP", "INTERVAL", "ENUM", "ENUM8",
      "ENUM16", "SET", "FIXEDSTRING", "DATETIME64", "SIGNED", "UNSIGNED", "ARRAY"] ++
    (if d.hasShapes then shapes else []) ++ (if d.hasSearchTypes then searchTypes else []) ++
    if d.hasWrappers then ["NULLABLE", "LOWCARDINALITY", "MAP", "TUPLE", "NESTED"] else []

def readScalar (d : Dialect) : Reader String :=
  first [readKnown d, readCharacter "CHARACTER", readCharacter "CHAR", readBit, readDouble,
    readTime "TIMESTAMP", readTime "TIME", readInterval d, readEnum "ENUM", readEnum "ENUM8",
    readEnum "ENUM16", readSet, readFixedString, readDatetime64, readSignedness,
    if d.hasShapes then readShape else fail, if d.hasSearchTypes then readSearchType else fail]

/-- Brackets after a type, each of which makes an array of it. -/
def readBrackets : Reader String := do
  let sizes ← many do
    symbol "["
    let size ← maybe natural
    symbol "]"
    return "[" ++ (size.map toString).getD "" ++ "]"
  return String.join sizes

/-- A type; `depth` bounds how many types contain one another. -/
def readType (d : Dialect) : Nat → Reader String
  | 0 => fail
  | depth + 1 => do
    let known ← ahead (token fun
      | .word text => if Text.upper text ∈ typeKeywords d then some () else none
      | _ => none)
    let named ← ahead wordName
    let type ←
      if known then first [readScalar d, readWrapper d (readType d depth)]
      else if named then readCustom
      else fail
    return type ++ (← if d.hasBracketArrays then readBrackets else pure "")

end Ddl

end QueryGate
