import QueryGate.Toml.Scalar

/-!
Reading a settings file: pairs of keys and values line by line, and headers of tables. Strings,
arrays and inline tables may take more than one line.
-/

namespace QueryGate.Toml

/-! ### Blanks and lines -/

def skipBlanks (cs : List Char) : List Char := cs.dropWhile fun c => c = ' ' || c = '\t'

/-- Characters that may stand in comments and strings. -/
def isText (c : Char) : Bool := c = '\t' || (0x20 ≤ c.toNat && c.toNat ≠ 0x7f)

def newline? : List Char → Option (List Char)
  | '\n' :: cs => some cs
  | '\r' :: '\n' :: cs => some cs
  | _ => none

def skipComment : List Char → List Char
  | '#' :: cs => cs.dropWhile isText
  | cs => cs

/-- The rest of a line that holds nothing more, and its end. -/
def endLine? (cs : List Char) : Option (List Char) :=
  match skipComment (skipBlanks cs) with
  | [] => some []
  | ds => newline? ds

def skipLinesFrom : Nat → List Char → List Char
  | 0, cs => cs
  | fuel + 1, cs =>
    let ds := skipComment (skipBlanks cs)
    match newline? ds with
    | some es => skipLinesFrom fuel es
    | none => ds

/-- Blanks, comments and line breaks. -/
def skipLines (cs : List Char) : List Char := skipLinesFrom cs.length cs

/-! ### Strings -/

/-- A character by its code in exactly `width` digits. -/
def code? (width : Nat) (cs : List Char) : Option (Char × List Char) :=
  let ds := cs.take width
  let n := valueIn 16 ds
  if ds.length = width && ds.all isHexDigit && n.isValidChar then
    some (Char.ofNat n, cs.drop width)
  else none

/-- What an escape stands for, after its backslash. -/
def escape? : List Char → Option (Char × List Char)
  | [] => none
  | c :: cs =>
    if c = 'u' then code? 4 cs
    else if c = 'U' then code? 8 cs
    else if c = 'x' then code? 2 cs
    else if c = 'b' then some ('\x08', cs)
    else if c = 't' then some ('\t', cs)
    else if c = 'n' then some ('\n', cs)
    else if c = 'f' then some ('\x0c', cs)
    else if c = 'r' then some ('\r', cs)
    else if c = 'e' then some ('\x1b', cs)
    else if c = '"' || c = '\\' then some (c, cs)
    else none

def basic? : Nat → List Char → Option (List Char × List Char)
  | 0, _ => none
  | _, [] => none
  | fuel + 1, c :: cs =>
    if c = '"' then some ([], cs)
    else if c = '\\' then do
      let (d, ds) ← escape? cs
      let (text, rest) ← basic? fuel ds
      return (d :: text, rest)
    else if isText c then do
      let (text, rest) ← basic? fuel cs
      return (c :: text, rest)
    else none

def literal? (cs : List Char) : Option (List Char × List Char) :=
  let text := cs.takeWhile fun c => isText c && c ≠ '\''
  match cs.drop text.length with
  | '\'' :: rest => some (text, rest)
  | _ => none

/-- White space after a backslash that ends a line. -/
def skipSpace : Nat → List Char → List Char
  | 0, cs => cs
  | fuel + 1, cs =>
    let ds := skipBlanks cs
    match newline? ds with
    | some es => skipSpace fuel es
    | none => ds

/-- A string over lines up to three marks; up to two more may stand right before them. Escapes are
read when `escapes` is set. -/
def multiline? (mark : Char) (escapes : Bool) : Nat → List Char → Option (List Char × List Char)
  | 0, _ => none
  | _, [] => none
  | fuel + 1, c :: cs => do
    if c = mark then
      let run := (c :: cs).takeWhile (· = mark)
      if 5 < run.length then none
      let rest := (c :: cs).drop run.length
      if 3 ≤ run.length then return (run.drop 3, rest)
      let (text, rest) ← multiline? mark escapes fuel rest
      return (run ++ text, rest)
    else if escapes && c = '\\' then
      match newline? (skipBlanks cs) with
      | some ds => multiline? mark escapes fuel (skipSpace ds.length ds)
      | none =>
        let (d, ds) ← escape? cs
        let (text, rest) ← multiline? mark escapes fuel ds
        return (d :: text, rest)
    else
      match newline? (c :: cs) with
      | some ds =>
        let (text, rest) ← multiline? mark escapes fuel ds
        return ('\n' :: text, rest)
      | none =>
        if !isText c then none
        let (text, rest) ← multiline? mark escapes fuel cs
        return (c :: text, rest)

/-- A string over lines, without a line break right after its opening. -/
def opened? (mark : Char) (escapes : Bool) (cs : List Char) : Option (List Char × List Char) :=
  multiline? mark escapes (cs.length + 1) ((newline? cs).getD cs)

/-! ### Keys -/

def isBare (c : Char) : Bool := c.isAlphanum || c = '_' || c = '-'

def key? (cs : List Char) : Option (String × List Char) :=
  match cs with
  | '"' :: ds => (basic? (ds.length + 1) ds).map fun r => (String.ofList r.1, r.2)
  | '\'' :: ds => (literal? ds).map fun r => (String.ofList r.1, r.2)
  | _ =>
    let name := cs.takeWhile isBare
    if name.isEmpty then none else some (String.ofList name, cs.drop name.length)

/-- Keys with points between them, and the blanks around. -/
def path? : Nat → List Char → Option (List String × List Char)
  | 0, _ => none
  | fuel + 1, cs => do
    let (k, rest) ← key? (skipBlanks cs)
    match skipBlanks rest with
    | '.' :: ds =>
      let (ks, rest) ← path? fuel ds
      return (k :: ks, rest)
    | ds => return ([k], ds)

/-! ### Values -/

def isScalarChar (c : Char) : Bool :=
  c.isAlphanum || c = '+' || c = '-' || c = '_' || c = '.' || c = ':'

/-- Unquoted characters; a date takes a time after one space with it. -/
def scalarChars (cs : List Char) : List Char × List Char :=
  let first := cs.takeWhile isScalarChar
  match cs.drop first.length with
  | ' ' :: c :: rest =>
    if date? first = some [] && c.isDigit then
      let second := (c :: rest).takeWhile isScalarChar
      (first ++ ' ' :: second, (c :: rest).drop second.length)
    else (first, ' ' :: c :: rest)
  | rest => (first, rest)

mutual

/-- A value and what follows it. `fuel` bounds the characters that may be read. -/
def value? (fuel : Nat) (cs : List Char) : Option (Toml × List Char) :=
  match fuel with
  | 0 => none
  | fuel + 1 => do
    match cs with
    | '"' :: '"' :: '"' :: ds =>
      let (text, rest) ← opened? '"' true ds
      return (.string (String.ofList text), rest)
    | '"' :: ds =>
      let (text, rest) ← basic? (ds.length + 1) ds
      return (.string (String.ofList text), rest)
    | '\'' :: '\'' :: '\'' :: ds =>
      let (text, rest) ← opened? '\'' false ds
      return (.string (String.ofList text), rest)
    | '\'' :: ds =>
      let (text, rest) ← literal? ds
      return (.string (String.ofList text), rest)
    | '[' :: ds =>
      let (items, rest) ← items? fuel ds
      return (.array items, rest)
    | '\x7b' :: ds =>
      let (pairs, rest) ← members? fuel ds
      return (.table (Draft.finishEntries (← assignAll [] pairs)), rest)
    | ds =>
      let (scalar, rest) := scalarChars ds
      return (← scalar? scalar, rest)

/-- The items of an array up to its closing bracket; a comma may follow the last one. -/
def items? (fuel : Nat) (cs : List Char) : Option (List Toml × List Char) :=
  match fuel with
  | 0 => none
  | fuel + 1 => do
    match skipLines cs with
    | ']' :: rest => return ([], rest)
    | ds =>
      let (v, rest) ← value? fuel ds
      match skipLines rest with
      | ',' :: ds =>
        let (vs, rest) ← items? fuel ds
        return (v :: vs, rest)
      | ']' :: rest => return ([v], rest)
      | _ => none

/-- The pairs of an inline table up to its closing brace; a comma may follow the last one. -/
def members? (fuel : Nat) (cs : List Char) : Option (List Pair × List Char) :=
  match fuel with
  | 0 => none
  | fuel + 1 => do
    match skipLines cs with
    | '\x7d' :: rest => return ([], rest)
    | ds =>
      let (p, rest) ← pair? fuel ds
      match skipLines rest with
      | ',' :: ds =>
        let (ps, rest) ← members? fuel ds
        return (p :: ps, rest)
      | '\x7d' :: rest => return ([p], rest)
      | _ => none

def pair? (fuel : Nat) (cs : List Char) : Option (Pair × List Char) :=
  match fuel with
  | 0 => none
  | fuel + 1 => do
    let (path, rest) ← path? (cs.length + 1) cs
    match rest with
    | '=' :: ds =>
      let (v, rest) ← value? fuel (skipBlanks ds)
      return ((path, v), rest)
    | _ => none

end

/-! ### Files -/

/-- A header and the end of its line: whether it is for an item of an array, and its path. -/
def header? (cs : List Char) : Option ((Bool × List String) × List Char) := do
  match cs with
  | '[' :: '[' :: ds =>
    let (path, rest) ← path? (ds.length + 1) ds
    match rest with
    | ']' :: ']' :: rest => return ((true, path), ← endLine? rest)
    | _ => none
  | '[' :: ds =>
    let (path, rest) ← path? (ds.length + 1) ds
    match rest with
    | ']' :: rest => return ((false, path), ← endLine? rest)
    | _ => none
  | _ => none

/-- The pairs up to the first header, and the sections from there on. -/
def lines? : Nat → List Char → Option (List Pair × List Section)
  | 0, _ => none
  | fuel + 1, cs => do
    match skipLines cs with
    | [] => return ([], [])
    | '[' :: ds =>
      let ((isItem, path), rest) ← header? ('[' :: ds)
      let (pairs, sections) ← lines? fuel rest
      return ([], ⟨isItem, path, pairs⟩ :: sections)
    | ds =>
      let (p, rest) ← pair? (2 * ds.length + 2) ds
      let (pairs, sections) ← lines? fuel (← endLine? rest)
      return (p :: pairs, sections)

/-- The table of a whole file; a mark of the byte order at its start does not count. -/
def parse? (text : String) : Option Table := do
  let cs := match text.toList with
    | '\ufeff' :: cs => cs
    | cs => cs
  let (pairs, sections) ← lines? (cs.length + 1) cs
  ofSections? pairs sections

end QueryGate.Toml
