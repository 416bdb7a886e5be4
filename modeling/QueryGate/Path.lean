import QueryGate.Text.Search

/-!
Places on a disk. A path is a text as it was given, with names below it; in the names themselves
nothing stands for another directory.
-/

namespace QueryGate

structure Path where
  base : String
  steps : List String
  deriving DecidableEq, Repr

namespace Path

def ofText (text : String) : Path := ⟨text, []⟩

def child (p : Path) (name : String) : Path := { p with steps := p.steps ++ [name] }

def descend (p : Path) (names : List String) : Path := names.foldl child p

/-- A name after a path, with one slash between them. -/
def joinText (path name : String) : String :=
  if path.isEmpty || path.toList.getLast? = some '/' then path ++ name else path ++ "/" ++ name

def toText (p : Path) : String := p.steps.foldl joinText p.base

/-- Takes a part of a text: an empty part and a dot stay in place, two dots go back. -/
def step (parts : List String) (part : String) : List String :=
  if part = "" || part = "." then parts else if part = ".." then parts.dropLast else parts ++ [part]

def textParts (text : String) : List String :=
  ((Text.splitAt '/' text.toList).map String.ofList).foldl step []

/-- The directories that lead to a place, and its name; a path from the root begins with a slash. -/
def parts (p : Path) : List String :=
  (if p.base.toList.head? = some '/' then ["/"] else []) ++ textParts p.base ++ p.steps

/-- The name of the last part, without what follows its last dot unless that is all of it. -/
def stem (p : Path) : Option String :=
  (p.parts.getLast?).map fun name =>
    let cs := name.toList.reverse
    let ending := cs.takeWhile (· ≠ '.')
    match cs.drop ending.length with
    | _ :: c :: rest => String.ofList (c :: rest).reverse
    | _ => name

end Path

end QueryGate
