import QueryGate.Owner
import QueryGate.Session

/-!
Documents of owners on a disk. Each owner has a directory below the archive, and each document a
file in it.
-/

namespace QueryGate

structure Archive where
  root : Path
  deriving DecidableEq, Repr

namespace Archive

def directory (a : Archive) (o : Owner) : Path := a.root.child o.text

def extension : String := ".json"

def fileName (name : Segment) : String := name.text ++ extension

def documentPath (a : Archive) (o : Owner) (name : Segment) : Path :=
  (a.directory o).child (fileName name)

/-- The name of a document that a file holds; a bare extension is no document. -/
def documentName? (file : String) : Option String :=
  match Text.dropSuffix? extension.toList file.toList with
  | some (c :: cs) => some (String.ofList (c :: cs))
  | _ => none

/-- A document of a listed directory. -/
structure Stored where
  name : String
  size : Nat
  deriving DecidableEq, Repr

def stored? (e : Disk.Entry) : Option Stored :=
  match documentName? e.name, e.size? with
  | some name, some size => some ⟨name, size⟩
  | _, _ => none

/-- The documents of an owner, in no particular order. -/
def documents (a : Archive) (o : Owner) : Action (List Stored) := do
  match ← Action.ask (.list (a.directory o)) with
  | .ok entries => return entries.filterMap stored?
  | .error .notFound => return []
  | .error cause => throw (.unreadable (a.directory o).toText cause)

def readDocument (a : Archive) (o : Owner) (name : Segment) : Action (Option String) := do
  let p := a.documentPath o name
  match ← Action.ask (.read p) with
  | .ok text => return some text
  | .error .notFound => return none
  | .error cause => throw (.unreadable p.toText cause)

def writeDocument (a : Archive) (o : Owner) (name : Segment) (text : String) : Action Unit := do
  match ← Action.ask (.place (a.directory o) (fileName name) text) with
  | .ok () => return ()
  | .error (p, cause) => throw (.unwritable p.toText cause)

/-- Removes a document; says whether there was one. -/
def removeDocument (a : Archive) (o : Owner) (name : Segment) : Action Bool := do
  let p := a.documentPath o name
  match ← Action.ask (.remove p) with
  | .ok there => return there
  | .error cause => throw (.unwritable p.toText cause)

end Archive

end QueryGate
