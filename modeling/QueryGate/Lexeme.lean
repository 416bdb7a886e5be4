import QueryGate.Identifier

/-!
The words, literals and marks of an SQL text. A layout keeps the gaps between them too, so that no
character of the text is lost.
-/

namespace QueryGate

inductive Lexeme.Kind
  | word
  | quotedName
  | string
  | number
  | dot
  | comma
  | semicolon
  | openParen
  | closeParen
  | other
  deriving DecidableEq, Repr

structure Lexeme where
  kind : Lexeme.Kind
  chars : List Char
  deriving DecidableEq, Repr

namespace Lexeme

def text (x : Lexeme) : String := String.ofList x.chars

/-- Words and quoted names can name a table or a column. -/
def isName (x : Lexeme) : Bool := x.kind = .word || x.kind = .quotedName

def identifier? (x : Lexeme) : Option String :=
  if x.isName then some (Identifier.normalize x.text) else none

/-- A bare word is a keyword whatever its case; a quoted name never is. -/
def isKeyword (x : Lexeme) (keyword : String) : Bool :=
  x.kind = .word && Text.eqIgnoringAsciiCase x.text keyword

end Lexeme

/-- A lexeme and the white space and comments before it. -/
structure Placed where
  gap : List Char
  lexeme : Lexeme
  deriving DecidableEq, Repr

/-- A whole text: its lexemes in order, and the gap after the last one. -/
structure Layout where
  placed : List Placed
  tail : List Char
  deriving DecidableEq, Repr

namespace Layout

def lexemes (l : Layout) : List Lexeme := l.placed.map Placed.lexeme

def toChars (l : Layout) : List Char :=
  l.placed.flatMap (fun p => p.gap ++ p.lexeme.chars) ++ l.tail

/-- The number of bytes a text takes in UTF-8. -/
def bytes (cs : List Char) : Nat := cs.foldr (fun c n => c.utf8Size + n) 0

/-- The byte offsets at which each lexeme starts and stops, for a text that begins at `start`. -/
def spansFrom (start : Nat) : List Placed → List (Nat × Nat)
  | [] => []
  | p :: ps =>
    let a := start + bytes p.gap
    let b := a + bytes p.lexeme.chars
    (a, b) :: spansFrom b ps

def spans (l : Layout) : List (Nat × Nat) := spansFrom 0 l.placed

end Layout

end QueryGate
