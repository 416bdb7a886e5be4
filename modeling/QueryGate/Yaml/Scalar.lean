import QueryGate.Binary
import QueryGate.Json

/-!
How a string is written among plain scalars. It stays plain when it reads back as itself, and is
quoted or made a block otherwise.
-/

namespace QueryGate.Yaml

/-! ### Texts that are no strings -/

/-- Digits after a zero, with or without a sign: some readers take them for a number. -/
def isPadded (cs : List Char) : Bool :=
  let ds := match cs with
    | '-' :: ds => ds
    | '+' :: ds => ds
    | ds => ds
  match ds with
  | '0' :: d :: ds => (d :: ds).all Char.isDigit
  | _ => false

def digitValue? (base : Nat) (c : Char) : Option Nat :=
  let n :=
    if c.isDigit then c.toNat - '0'.toNat
    else if 'a' ≤ c.toLower && c.toLower ≤ 'f' then c.toLower.toNat - 'a'.toNat + 10
    else base
  if n < base then some n else none

def natural? (base : Nat) (ds : List Char) : Option Nat :=
  if ds.isEmpty then none
  else ds.foldlM (fun n c => (digitValue? base c).map (base * n + ·)) 0

/-- A number in the base that its first two characters name. -/
def based? : List Char → Option Nat
  | '0' :: 'x' :: ds => natural? 16 ds
  | '0' :: 'o' :: ds => natural? 8 ds
  | '0' :: 'b' :: ds => natural? 2 ds
  | _ => none

/-- Whether a text is an integer of 128 bits. -/
def isInteger (cs : List Char) : Bool :=
  let positive := match cs with
    | '+' :: ds => ds
    | ds => ds
  let negative? := match cs with
    | '-' :: ds => some ds
    | _ => none
  (based? positive).any (· < Nat.pow 2 128) ||
    (negative?.bind based?).any (· ≤ Nat.pow 2 127) ||
    (!isPadded cs &&
      ((natural? 10 positive).any (· < Nat.pow 2 128) ||
        (negative?.bind (natural? 10)).any (· ≤ Nat.pow 2 127)))

/-- The exponent of ten that ends a number. -/
def exponent? : List Char → Option Int
  | [] => some 0
  | e :: cs =>
    let (negative, ds) := match cs with
      | '-' :: ds => (true, ds)
      | '+' :: ds => (false, ds)
      | ds => (false, ds)
    if e = 'e' || e = 'E' then (natural? 10 ds).map fun n => if negative then -n else n else none

/-- Whether a text without a sign is a number of digits, a point and a power of ten. -/
def isDecimal (cs : List Char) : Bool :=
  let whole := cs.takeWhile Char.isDigit
  let rest := cs.drop whole.length
  let fraction := match rest with
    | '.' :: ds => ds.takeWhile Char.isDigit
    | _ => []
  let rest := match rest with
    | '.' :: ds => ds.drop fraction.length
    | ds => ds
  let digits := whole ++ fraction
  match exponent? rest with
  | some e =>
    !digits.isEmpty &&
      (Binary.ofDecimal Binary.double false (Numeral.digitsValue digits)
        (e - fraction.length)).isFinite
  | none => false

def infinities : List (List Char) := [".inf", ".Inf", ".INF"].map String.toList

def undefineds : List (List Char) := [".nan", ".NaN", ".NAN"].map String.toList

/-- Whether a text is a finite number or names another value of binary arithmetic. -/
def isReal (cs : List Char) : Bool :=
  match cs with
  | '+' :: ds => infinities.contains ds || isDecimal ds
  | '-' :: ds => infinities.contains ds || isDecimal ds
  | ds => infinities.contains ds || undefineds.contains ds || isDecimal ds

def words : List String :=
  ["", "~", "null", "Null", "NULL", "true", "True", "TRUE", "false", "False", "FALSE"]

/-- Whether a text stands for something that is no string. -/
def isTaken (cs : List Char) : Bool :=
  words.contains (String.ofList cs) || isInteger cs || isReal cs || isPadded cs

/-! ### Characters -/

def isBreak (c : Char) : Bool :=
  c = '\n' || c = '\r' || c = '\u0085' || c = '\u2028' || c = '\u2029'

def isPrintable (c : Char) : Bool :=
  let n := c.toNat
  n = 0x0a || (0x20 ≤ n && n ≤ 0x7e) || (0xa0 ≤ n && n ≠ 0xfeff && n ≠ 0xfffe && n ≠ 0xffff)

/-- White space, or the end of a text. -/
def isGap : Option Char → Bool
  | none => true
  | some c => c = ' ' || c = '\t' || c = '\x00' || isBreak c

/-- Characters that no plain scalar begins with. -/
def isIndicator (c : Char) : Bool := "#,[]\x7b\x7d&*!|>'\"%@`".toList.contains c

def startsLikeSyntax : List Char → Bool
  | [] => false
  | c :: cs => isIndicator c || ((c = '?' || c = ':' || c = '-') && isGap cs.head?)

/-- Whether a colon before a gap or a number sign after one stands inside a text. -/
def holdsSyntax : List Char → Bool
  | [] => false
  | [_] => false
  | b :: c :: cs =>
    (c = ':' && isGap cs.head?) || (c = '#' && isGap (some b)) || holdsSyntax (c :: cs)

/-- Whether the mark of a document begins a text. -/
def startsLikeDocument (cs : List Char) : Bool :=
  "---".toList.isPrefixOf cs || "...".toList.isPrefixOf cs

/-- Whether some `p` stands right before some `q`. -/
def meets (p q : Char → Bool) : List Char → Bool
  | a :: b :: cs => (p a && q b) || meets p q (b :: cs)
  | _ => false

/-! ### Styles -/

inductive Style
  | plain
  | single
  | double
  | block
  deriving DecidableEq, Repr

def isSpace (c : Char) : Bool := c = ' '

/-- Whether escapes are needed: for characters that do not show, and for spaces that end a line. -/
def needsEscapes (cs : List Char) : Bool := cs.any (!isPrintable ·) || meets isSpace isBreak cs

def canBePlain (cs : List Char) : Bool :=
  !needsEscapes cs && !cs.any isBreak && !isTaken cs && !cs.head?.any isSpace &&
    !cs.getLast?.any isSpace && !startsLikeSyntax cs && !holdsSyntax cs && !startsLikeDocument cs

def canBeSingle (cs : List Char) : Bool := !needsEscapes cs && !meets isBreak isSpace cs

def canBeBlock (cs : List Char) : Bool := !needsEscapes cs && !cs.getLast?.any isSpace

/-- The style of a string. On the line of a key there is no room for blocks and line breaks. -/
def styleOf (isKey : Bool) (cs : List Char) : Style :=
  if isKey && cs.any isBreak then .double
  else if cs.contains '\n' then if canBeBlock cs && !isKey then .block else .double
  else if canBePlain cs then .plain
  else if canBeSingle cs then .single
  else .double

/-! ### Written forms -/

def blanks (n : Nat) : List Char := List.replicate n ' '

/-- Line breaks stay as they are, and `indent` follows the last of them. -/
def indentLines (indent : List Char) (atStart : Bool) : List Char → List Char
  | [] => []
  | c :: cs =>
    if isBreak c then c :: indentLines indent true cs
    else (if atStart then indent else []) ++ c :: indentLines indent false cs

def doubleQuotes (cs : List Char) : List Char :=
  cs.flatMap fun c => if c = '\'' then [c, c] else [c]

def singleQuoted (indent : Nat) (cs : List Char) : List Char :=
  '\'' :: indentLines (blanks indent) false (doubleQuotes cs) ++
    (if cs.getLast?.any isBreak then blanks indent else []) ++ ['\'']

/-- The letter of an escape. -/
def escapeLetter? (n : Nat) : Option Char :=
  [(0x00, '0'), (0x07, 'a'), (0x08, 'b'), (0x09, 't'), (0x0a, 'n'), (0x0b, 'v'), (0x0c, 'f'),
    (0x0d, 'r'), (0x1b, 'e'), (0x22, '"'), (0x5c, '\\'), (0x85, 'N'), (0x2028, 'L'),
    (0x2029, 'P')].lookup n

def hexDigits (width n : Nat) : List Char :=
  let ds := (Nat.toDigits 16 n).map Char.toUpper
  List.replicate (width - ds.length) '0' ++ ds

def escape (c : Char) : List Char :=
  let n := c.toNat
  if isPrintable c && !isBreak c && c ≠ '"' && c ≠ '\\' then [c]
  else match escapeLetter? n with
    | some letter => ['\\', letter]
    | none =>
      if n ≤ 0xff then '\\' :: 'x' :: hexDigits 2 n
      else if n ≤ 0xffff then '\\' :: 'u' :: hexDigits 4 n
      else '\\' :: 'U' :: hexDigits 8 n

def doubleQuoted (cs : List Char) : List Char := '"' :: cs.flatMap escape ++ ['"']

/-- What the head of a block says of line breaks at the end: there is none, or more than one. -/
def chomping (cs : List Char) : List Char :=
  match cs.reverse with
  | c :: d :: _ => if !isBreak c then ['-'] else if isBreak d then ['+'] else []
  | [c] => if isBreak c then ['+'] else ['-']
  | [] => ['-']

/-- A block of lines; its head gives the indentation when the text does not show it. -/
def block (indent : Nat) (cs : List Char) : List Char :=
  '|' :: (if cs.head?.any fun c => isSpace c || isBreak c then ['2'] else []) ++ chomping cs ++
    '\n' :: indentLines (blanks indent) true cs

/-- A string at some indentation. -/
def scalar (isKey : Bool) (indent : Nat) (cs : List Char) : List Char :=
  match styleOf isKey cs with
  | .plain => cs
  | .single => singleQuoted indent cs
  | .double => doubleQuoted cs
  | .block => block indent cs

end QueryGate.Yaml
