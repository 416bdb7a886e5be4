import QueryGate.Json

/-!
Two written forms of a document: compact, without any white space, and indented by two spaces.
Characters beyond ASCII are written as they are.
-/

namespace QueryGate.Json

def hexDigit (n : Nat) : Char := (Nat.digitChar n)

/-- Quotes, backslashes and control characters are escaped, by a letter where there is one. -/
def escapeChar (c : Char) : List Char :=
  if c = '"' then ['\\', '"']
  else if c = '\\' then ['\\', '\\']
  else if c = '\n' then ['\\', 'n']
  else if c = '\r' then ['\\', 'r']
  else if c = '\t' then ['\\', 't']
  else if c = '\x08' then ['\\', 'b']
  else if c = '\x0c' then ['\\', 'f']
  else if c.toNat < 0x20 then
    ['\\', 'u', '0', '0', hexDigit (c.toNat / 16), hexDigit (c.toNat % 16)]
  else [c]

def quoteChars (cs : List Char) : List Char := '"' :: cs.flatMap escapeChar ++ ['"']

def quote (s : String) : List Char := quoteChars s.toList

mutual

def compactChars : Json → List Char
  | .null => ['n', 'u', 'l', 'l']
  | .bool true => ['t', 'r', 'u', 'e']
  | .bool false => ['f', 'a', 'l', 's', 'e']
  | .number n => n.toChars
  | .string s => quote s
  | .unpaired => ['"', '"']
  | .array items => '[' :: compactItems items ++ [']']
  | .object members => '\x7b' :: compactMembers members ++ ['\x7d']

def compactItems : List Json → List Char
  | [] => []
  | [j] => compactChars j
  | j :: js => compactChars j ++ ',' :: compactItems js

def compactMembers : List (String × Json) → List Char
  | [] => []
  | [(k, j)] => quote k ++ ':' :: compactChars j
  | (k, j) :: js => quote k ++ ':' :: compactChars j ++ ',' :: compactMembers js

end

def compact (j : Json) : String := String.ofList j.compactChars

/-- A line break and the indentation of the next line. -/
def newline (level : Nat) : List Char := '\n' :: List.replicate (2 * level) ' '

mutual

def prettyChars (level : Nat) : Json → List Char
  | .array [] => ['[', ']']
  | .array (j :: js) => '[' :: prettyItems (level + 1) (j :: js) ++ newline level ++ [']']
  | .object [] => ['\x7b', '\x7d']
  | .object (m :: ms) => '\x7b' :: prettyMembers (level + 1) (m :: ms) ++ newline level ++ ['\x7d']
  | .null => ['n', 'u', 'l', 'l']
  | .bool true => ['t', 'r', 'u', 'e']
  | .bool false => ['f', 'a', 'l', 's', 'e']
  | .number n => n.toChars
  | .string s => quote s
  | .unpaired => ['"', '"']

def prettyItems (level : Nat) : List Json → List Char
  | [] => []
  | [j] => newline level ++ prettyChars level j
  | j :: js => newline level ++ prettyChars level j ++ ',' :: prettyItems level js

def prettyMembers (level : Nat) : List (String × Json) → List Char
  | [] => []
  | [(k, j)] => newline level ++ quote k ++ ':' :: ' ' :: prettyChars level j
  | (k, j) :: js =>
    newline level ++ quote k ++ ':' :: ' ' :: prettyChars level j ++ ',' :: prettyMembers level js

end

def pretty (j : Json) : String := String.ofList (j.prettyChars 0)

end QueryGate.Json
