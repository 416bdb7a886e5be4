import QueryGate.Lexeme.Scan
import QueryGate.OrderedMap

/-!
The tables that a statement gives other names, and the dotted names in it. Both are read off the
lexemes, without a grammar of statements.
-/

namespace QueryGate

/-- A dotted name: what stands before the dot is a table or an alias. -/
structure Reference where
  qualifier : String
  column : String
  deriving DecidableEq, Repr

/-- Words in upper case that continue a statement after a table, and so are not its alias. -/
abbrev ClauseWords := List String

namespace Reference

def clauseWords : ClauseWords :=
  ["WHERE", "ON", "USING", "JOIN", "INNER", "LEFT", "RIGHT", "FULL", "OUTER", "CROSS", "NATURAL",
    "GROUP", "ORDER", "HAVING", "LIMIT", "OFFSET", "UNION", "INTERSECT", "EXCEPT", "WINDOW",
    "FETCH", "FOR", "RETURNING", "SET", "VALUES", "SELECT", "WITH", "LATERAL", "AND", "OR", "NOT",
    "INTO", "QUALIFY", "TABLESAMPLE"]

/-- The dotted names of a statement, from left to right and without overlap. -/
def ofLexemes : List Lexeme → List Reference
  | a :: d :: b :: xs =>
    match d.kind, a.identifier?, b.identifier? with
    | .dot, some qualifier, some column => ⟨qualifier, column⟩ :: ofLexemes xs
    | _, _, _ => ofLexemes (d :: b :: xs)
  | _ => []

end Reference

/-- A table of a FROM list or a join, and the alias it is given. -/
structure Source where
  table : String
  alias? : Option String
  deriving DecidableEq, Repr

namespace Source

def isClauseWord (words : ClauseWords) (x : Lexeme) : Bool :=
  x.kind = .word && words.contains (Text.upperAscii x.text)

/-- Whether AS comes next, and what follows it. -/
def readAs : List Lexeme → Bool × List Lexeme
  | [] => (false, [])
  | x :: xs => if x.isKeyword "AS" then (true, xs) else (false, x :: xs)

theorem readAs_length (xs : List Lexeme) : (readAs xs).2.length ≤ xs.length := by
  unfold readAs
  split
  · exact Nat.le_refl _
  · split <;> simp

/-- The alias after a table, and what follows. After AS any name is an alias. -/
def readAlias (words : ClauseWords) (xs : List Lexeme) : Option String × List Lexeme :=
  let r := readAs xs
  match r.2 with
  | [] => (none, [])
  | x :: ys =>
    match (if r.1 || !isClauseWord words x then x.identifier? else none) with
    | some name => (some name, ys)
    | none => (none, x :: ys)

theorem readAlias_length (words : ClauseWords) (xs : List Lexeme) :
    (readAlias words xs).2.length ≤ xs.length := by
  have h := readAs_length xs
  simp only [readAlias]
  split
  · exact Nat.zero_le _
  · next x ys e =>
    rw [e] at h
    split
    · exact Nat.le_trans (Nat.le_succ _) h
    · exact h

/-- The table that some lexemes begin with, and what follows it. -/
def read? (words : ClauseWords) : List Lexeme → Option (Source × List Lexeme)
  | [] => none
  | x :: xs => x.identifier?.map fun table =>
    let r := readAlias words xs
    (⟨table, r.1⟩, r.2)

theorem read?_length {words : ClauseWords} {xs rest : List Lexeme} {s : Source}
    (h : read? words xs = some (s, rest)) : rest.length < xs.length := by
  cases xs with
  | nil => cases h
  | cons x xs =>
    obtain ⟨_, _, e⟩ := Option.map_eq_some_iff.1 h
    cases e
    exact Nat.lt_succ_of_le (readAlias_length words xs)

/-- Tables separated by commas. -/
def readList (words : ClauseWords) (xs : List Lexeme) : List Source :=
  match _h : read? words xs with
  | none => []
  | some (s, []) => [s]
  | some (s, y :: ys) => if y.kind = .comma then s :: readList words ys else [s]
termination_by xs.length
decreasing_by
  have := read?_length _h
  simp only [List.length_cons] at this
  omega

/-- The tables after every FROM and every JOIN; a join names one table. -/
def ofLexemes (words : ClauseWords) : List Lexeme → List Source
  | [] => []
  | x :: xs =>
    let here :=
      if x.isKeyword "FROM" then readList words xs
      else if x.isKeyword "JOIN" then ((read? words xs).map Prod.fst).toList
      else []
    here ++ ofLexemes words xs

end Source

/-- What a statement refers to. A repeated alias stands for its last table. -/
structure Extraction where
  aliases : OrderedMap String String
  references : List Reference
  deriving DecidableEq

namespace Extraction

def ofLexemes (words : ClauseWords) (xs : List Lexeme) : Extraction where
  aliases := .ofList ((Source.ofLexemes words xs).filterMap fun s => s.alias?.map (·, s.table))
  references := Reference.ofLexemes xs

def ofText (words : ClauseWords) (sql : String) : Extraction :=
  ofLexemes words (Layout.ofText sql).lexemes

end Extraction

end QueryGate
