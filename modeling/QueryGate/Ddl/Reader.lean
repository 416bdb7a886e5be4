import QueryGate.Ddl.Token

/-!
Reading from the front of a list of tokens. A reader gives a value and the tokens that are left; one
that fails takes nothing.
-/

namespace QueryGate.Ddl

abbrev Reader (α : Type) : Type := StateT (List Token) Option α

namespace Reader

variable {α : Type}

def fail : Reader α := fun _ => none

def peek? : Reader (Option Token) := fun ts => some (ts.head?, ts)

/-- The next token, when `f` gives it a value. -/
def token (f : Token → Option α) : Reader α
  | [] => none
  | t :: ts => (f t).map (·, ts)

def Token.isKeyword (keyword : String) : Token → Bool
  | .word text => Text.upper text = keyword
  | _ => false

/-- A bare word, in any case; `k` is in upper case. -/
def keyword (k : String) : Reader Unit :=
  token fun t => if Token.isKeyword k t then some () else none

/-- Words one after another. -/
def phrase : List String → Reader Unit
  | [] => pure ()
  | k :: ks => do
    keyword k
    phrase ks

def symbol (s : String) : Reader Unit := token fun t => if t = .symbol s then some () else none

/-- What `p` reads, or nothing. -/
def maybe (p : Reader α) : Reader (Option α) := fun ts =>
  match p ts with
  | some (a, rest) => some (some a, rest)
  | none => some (none, ts)

def allowed (p : Reader α) : Reader Bool := Option.isSome <$> maybe p

/-- The first of several readers that does not fail. -/
def first : List (Reader α) → Reader α
  | [] => fail
  | p :: ps => fun ts => (p ts).or (first ps ts)

/-- Whether `p` could read on. -/
def ahead (p : Reader α) : Reader Bool := fun ts => some ((p ts).isSome, ts)

def manyFrom (p : Reader α) : Nat → List Token → List α × List Token
  | 0, ts => ([], ts)
  | n + 1, ts =>
    match p ts with
    | some (a, rest) =>
      if rest.length < ts.length then
        let r := manyFrom p n rest
        (a :: r.1, r.2)
      else ([], ts)
    | none => ([], ts)

/-- As many times as `p` reads something. -/
def many (p : Reader α) : Reader (List α) := fun ts => some (manyFrom p ts.length ts)

/-- At least one, with `separator` between them. -/
def separated (separator : Reader Unit) (p : Reader α) : Reader (List α) := do
  let a ← p
  return a :: (← many (separator *> p))

def commaList (p : Reader α) : Reader (List α) := separated (symbol ",") p

def parens (p : Reader α) : Reader α := do
  symbol "("
  let a ← p
  symbol ")"
  return a

/-- No more tokens. -/
def finished : Reader Bool := fun ts => some (ts.isEmpty, ts)

/-! ### Names and numbers -/

/-- A name as it is written: the mark that quotes it, and its text. -/
structure Name where
  mark? : Option Char
  text : String
  deriving DecidableEq, Repr

/-- The characters of a quoted text, with a mark in it doubled unless a mark or a backslash stands
next to it. -/
def doubleMark (mark : Char) (previous : Char) : List Char → List Char
  | [] => []
  | c :: d :: cs =>
    if c = mark then
      if previous = '\\' then c :: doubleMark mark previous (d :: cs)
      else if d = mark then c :: d :: doubleMark mark mark cs
      else c :: c :: doubleMark mark c (d :: cs)
    else c :: doubleMark mark c (d :: cs)
  | [c] => if c = mark && previous ≠ '\\' then [c, c] else [c]

def quoteWith (mark : Char) (text : String) : String :=
  String.ofList (mark :: doubleMark mark '\x00' text.toList ++ [mark])

def Name.written (n : Name) : String :=
  match n.mark? with
  | none => n.text
  | some '[' => "[" ++ n.text ++ "]"
  | some mark => quoteWith mark n.text

def name : Reader Name :=
  token fun
    | .word text => some ⟨none, text⟩
    | .quotedName mark text => some ⟨some mark, text⟩
    | .string text => some ⟨some '\'', text⟩
    | .doubleString text => some ⟨some '"', text⟩
    | _ => none

/-- Names with points between them. -/
def qualifiedName : Reader (List Name) := separated (symbol ".") name

/-- A word or a quoted name. -/
def wordName : Reader Name :=
  token fun
    | .word text => some ⟨none, text⟩
    | .quotedName mark text => some ⟨some mark, text⟩
    | _ => none

/-- A whole number that fits a machine word. -/
def natural : Reader Nat :=
  token fun
    | .number text =>
      match text.toNat? with
      | some n => if text.toList.all Char.isDigit && n < UInt64.size then some n else none
      | none => none
    | _ => none

def number : Reader String :=
  token fun
    | .number text => some text
    | _ => none

def literal : Reader Unit := token fun t => if t = .literal then some () else none

/-- A string in either kind of quotes. -/
def string : Reader String :=
  token fun
    | .string text | .doubleString text => some text
    | _ => none

end Reader

end QueryGate.Ddl
