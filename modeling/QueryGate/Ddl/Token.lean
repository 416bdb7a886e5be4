import QueryGate.Dialect
import QueryGate.Text.Search
import QueryGate.Text.WordChar

/-!
The tokens of table declarations. Dialects differ in their quotes, their comments and the characters
of their names.
-/

namespace QueryGate

namespace Ddl

inductive Token
  | word (text : String)
  | quotedName (mark : Char) (text : String)
  | string (text : String)
  /-- A string between double quotes, where those do not quote names. -/
  | doubleString (text : String)
  /-- A string of another notation. -/
  | literal
  | number (text : String)
  | symbol (text : String)
  deriving DecidableEq, Repr

end Ddl

namespace Dialect

open Text

def beyondAscii (c : Char) : Bool := 0x80 ≤ c.toNat

/-- A letter of any script. -/
def isLetter (c : Char) : Bool :=
  c.isAlpha || (beyondAscii c && isWordChar c && !inRanges unletteredRanges c.toNat)

def startsName (d : Dialect) (c : Char) : Bool :=
  match d with
  | .generic => isLetter c || c = '_' || c = '#' || c = '@'
  | .mySql => isLetter c || c = '_' || c = '$' || c = '@' || (beyondAscii c && c.toNat < 0x10000)
  | .postgres => c.isAlpha || c = '_' || beyondAscii c
  | .sqlite => c.isAlpha || c = '_' || (0x7F ≤ c.toNat && c.toNat < 0x10000)
  | .clickHouse => c.isAlpha || c = '_'

def continuesName (d : Dialect) (c : Char) : Bool :=
  d.startsName c || c.isDigit ||
    match d with
    | .generic | .postgres => c = '$'
    | _ => false

/-- The mark that closes a name which `c` opens. -/
def closingMark? (d : Dialect) (c : Char) : Option Char :=
  if c = '"' then (if d = .mySql then none else some '"')
  else if c = '\x60' then (if d = .postgres then none else some '\x60')
  else if c = '[' then (if d = .sqlite then some ']' else none)
  else none

def hasBackslashEscapes (d : Dialect) : Bool := d = .mySql || d = .clickHouse

def nestsComments (d : Dialect) : Bool := d = .generic || d = .postgres || d = .clickHouse

def hasHashComments (d : Dialect) : Bool := d = .mySql

/-- Two dashes begin a comment only before a blank. -/
def spacesComments (d : Dialect) : Bool := d = .mySql

/-- Strings in which a backslash escapes have a notation of their own. -/
def hasEscapeStrings (d : Dialect) : Bool := d = .generic || d = .postgres

def hasBitStrings (d : Dialect) : Bool := d ≠ .clickHouse

/-- Whether a letter before a quote is part of a string. -/
def prefixesString (d : Dialect) (c : Char) : Bool :=
  let c := c.toUpper
  c = 'N' || c = 'X' || (c = 'B' && d.hasBitStrings) || (c = 'E' && d.hasEscapeStrings)

/-- Names may begin with digits. -/
def hasNumericNames (d : Dialect) : Bool := d = .mySql || d = .clickHouse

end Dialect

namespace Ddl

/-- What a character after a backslash stands for. -/
def unescape (c : Char) : Char :=
  if c = '0' then '\x00'
  else if c = 'a' then '\x07'
  else if c = 'b' then '\x08'
  else if c = 'f' then '\x0c'
  else if c = 'n' then '\n'
  else if c = 'r' then '\r'
  else if c = 't' then '\t'
  else if c = 'Z' then '\x1a'
  else c

/-- The text up to a closing mark, and what follows; a doubled mark is part of the text. -/
def quotedRest? (close : Char) (escapes : Bool) : List Char → Option (List Char × List Char)
  | [] => none
  | [c] => if c = close then some ([], []) else none
  | c :: d :: cs =>
    if c = close then
      if d = close then (quotedRest? close escapes cs).map fun r => (close :: r.1, r.2)
      else some ([], d :: cs)
    else if escapes && c = '\\' then
      (quotedRest? close escapes cs).map fun r => (unescape d :: r.1, r.2)
    else (quotedRest? close escapes (d :: cs)).map fun r => (c :: r.1, r.2)

/-- What follows a block comment; `depth` more comments are open around it. -/
def afterComment? (nests : Bool) (depth : Nat) : List Char → Option (List Char)
  | '*' :: '/' :: cs =>
    match depth with
    | 0 => some cs
    | n + 1 => afterComment? nests n cs
  | '/' :: '*' :: cs =>
    if nests then afterComment? nests (depth + 1) cs else afterComment? nests depth ('*' :: cs)
  | _ :: cs => afterComment? nests depth cs
  | [] => none

/-- Operators of several characters, longer ones before their beginnings. -/
def longSymbols : List (List Char) :=
  ["->>", "#>>", "<=>", "!~*", "::", "<=", ">=", "<>", "!=", "==", "||", "->", "=>", ":=", "<<",
    ">>", "~*", "!~", "@>", "<@", "#>", "#-", "&&", "**", "//"].map String.toList

/-- A symbol that begins with `c`, and what follows it. -/
def readSymbol (c : Char) (cs : List Char) : Token × List Char :=
  match longSymbols.find? (·.isPrefixOf (c :: cs)) with
  | some s => (.symbol (String.ofList s), (c :: cs).drop s.length)
  | none => (.symbol (String.ofList [c]), cs)

def isHexDigit (c : Char) : Bool := c.isDigit || ('a' ≤ c.toLower && c.toLower ≤ 'f')

/-- A number: digits, a fraction and an exponent. -/
def readNumber (cs : List Char) : List Char × List Char :=
  let whole := cs.takeWhile Char.isDigit
  let rest := cs.dropWhile Char.isDigit
  let (fraction, rest) := match rest with
    | '.' :: ds => ('.' :: ds.takeWhile Char.isDigit, ds.dropWhile Char.isDigit)
    | ds => ([], ds)
  let exponent (sign ds : List Char) : Option (List Char × List Char) :=
    if ds.head?.any Char.isDigit then
      some (sign ++ ds.takeWhile Char.isDigit, ds.dropWhile Char.isDigit)
    else none
  let power := match rest with
    | e :: s :: ds =>
      if e = 'e' ∨ e = 'E' then
        if s = '+' ∨ s = '-' then exponent [e, s] ds else exponent [e] (s :: ds)
      else none
    | _ => none
  match power with
  | some (p, rest) => (whole ++ fraction ++ p, rest)
  | none => (whole ++ fraction, rest)

/-- A string between dollar tags, or a numbered parameter. -/
def readDollar? (cs : List Char) : Option (Token × List Char) :=
  let tag := cs.takeWhile fun c => c.isAlphanum || c = '_' || Dialect.beyondAscii c
  match cs.drop tag.length with
  | '$' :: rest =>
    (Text.cut? ('$' :: tag ++ ['$']) rest).map fun r => (.literal, r.2)
  | rest => some (.literal, rest)

/-- The token or gap that begins with `c`, and what follows it. A text may fail to go on there. -/
def readToken? (d : Dialect) (c : Char) (cs : List Char) : Option (Option Token × List Char) :=
  if c = '-' && cs.head? = some '-' && (!d.spacesComments || cs[1]? = some ' ') then
    some (none, (cs.dropWhile (· ≠ '\n')).drop 1)
  else if c = '/' && cs.head? = some '*' then
    (afterComment? d.nestsComments 0 (cs.drop 1)).map fun r => (none, r)
  else if c = '#' && d.hasHashComments then some (none, (cs.dropWhile (· ≠ '\n')).drop 1)
  else if d.prefixesString c && cs.head? = some '\'' then
    (quotedRest? '\'' (c.toUpper = 'E') (cs.drop 1)).map fun r => (some .literal, r.2)
  else if c = '\'' then
    (quotedRest? '\'' d.hasBackslashEscapes cs).map fun r =>
      (some (.string (String.ofList r.1)), r.2)
  else match d.closingMark? c with
    | some close =>
      (quotedRest? close false cs).map fun r => (some (.quotedName c (String.ofList r.1)), r.2)
    | none =>
      if c = '"' then
        (quotedRest? '"' d.hasBackslashEscapes cs).map fun r =>
          (some (.doubleString (String.ofList r.1)), r.2)
      else if c = '0' && cs.head? = some 'x' then
        some (some .literal, (cs.drop 1).dropWhile isHexDigit)
      else if c.isDigit || (c = '.' && cs.head?.any Char.isDigit) then
        let (n, rest) := readNumber (c :: cs)
        if d.hasNumericNames && n.all Char.isDigit && rest.head?.any d.startsName then
          some (some (.word (String.ofList (n ++ rest.takeWhile d.continuesName))),
            rest.dropWhile d.continuesName)
        else some (some (.number (String.ofList n)), rest)
      else if d.startsName c then
        some (some (.word (String.ofList (c :: cs.takeWhile d.continuesName))),
          cs.dropWhile d.continuesName)
      else if c = '$' then (readDollar? cs).map fun r => (some r.1, r.2)
      else if Text.isBlank c then some (none, cs)
      else
        let r := readSymbol c cs
        some (some r.1, r.2)

/-- The tokens of a whole text. Each is read from a text that is shorter than the one before. -/
def tokensOfChars? (d : Dialect) (cs : List Char) : Option (List Token) :=
  match cs with
  | [] => some []
  | c :: cs =>
    match readToken? d c cs with
    | none => none
    | some (token, rest) =>
      if _h : rest.length ≤ cs.length then (tokensOfChars? d rest).map (token.toList ++ ·)
      else none
termination_by cs.length
decreasing_by simp only [List.length_cons]; omega

def tokens? (d : Dialect) (sql : String) : Option (List Token) := tokensOfChars? d sql.toList

end Ddl

end QueryGate
