import QueryGate.Archive.Document
import QueryGate.Catalog.Difference
import QueryGate.Snapshot.Document

/-!
Snapshots of owners, each under a name of its own. New tables with the same fingerprint are not
written, so that the stored time is that of the last change.
-/

namespace QueryGate.Archive

def nameOfText (name : String) : Except Fault Segment := Segment.ofText "snapshot name" name

/-- A snapshot of a listed archive. -/
structure Listed where
  name : String
  updated : Timestamp
  size? : Option Nat
  deriving DecidableEq, Repr

/-- How an update ended. -/
structure Update where
  updated : Bool
  reason : String
  metadata : Snapshot.Metadata
  deriving DecidableEq, Repr

def unchanged (s : Snapshot) : Update := ⟨false, "No changes detected.", s.metadata⟩

def replaced (s : Snapshot) : Update := ⟨true, "Schema updated.", s.metadata⟩

/-- Newest first, and by name when the times are equal. -/
def Listed.before (a b : Listed) : Bool :=
  if b.updated.before a.updated then true
  else if a.updated.before b.updated then false
  else decide (a.name ≤ b.name)

/-- The listed form of a document, unless it is gone or is not a snapshot. -/
def listed? (a : Archive) (o : Owner) (d : Stored) : Action (Option Listed) := do
  let text? ← a.readDocument o (← liftExcept (nameOfText d.name))
  return do
    let s ← (Snapshot.ofDocument (← text?)).toOption
    return ⟨d.name, s.updated, some d.size⟩

/-- The snapshots of an owner; documents that are no snapshots are left out. -/
def list (a : Archive) (o : Owner) : Action (List Listed) := do
  let found ← (← a.documents o).mapM (a.listed? o)
  return (found.filterMap id).mergeSort Listed.before

/-- Puts a new snapshot in place of whatever has its name. -/
def save (a : Archive) (o : Owner) (name : String) (dialect? : Option String) (tables : Catalog)
    (now : Timestamp) : Action Snapshot.Metadata := do
  let segment ← liftExcept (nameOfText name)
  let s := Snapshot.take name dialect? tables now
  a.writeDocument o segment s.toDocument
  return s.metadata

/-- The document of a snapshot as it is stored. -/
def document (a : Archive) (o : Owner) (name : String) : Action String := do
  match ← a.readDocument o (← liftExcept (nameOfText name)) with
  | some text => return text
  | none => throw (.snapshotMissing name)

def get (a : Archive) (o : Owner) (name : String) : Action Snapshot := do
  liftExcept (Snapshot.ofDocument (← a.document o name))

/-- Removes a snapshot; says whether there was one. -/
def delete (a : Archive) (o : Owner) (name : String) : Action Bool := do
  a.removeDocument o (← liftExcept (nameOfText name))

/-- How tables differ from those of a stored snapshot. -/
def diff (a : Archive) (o : Owner) (name : String) (tables : Catalog) : Action Difference := do
  let s ← a.get o name
  return Difference.between s.tables tables.normalize

/-- Puts tables into a stored snapshot, unless they change nothing. -/
def update (a : Archive) (o : Owner) (name : String) (tables : Catalog) (now : Timestamp) :
    Action Update := do
  let s ← a.get o name
  if s.differsFrom tables then
    let t := s.update tables now
    a.writeDocument o (← liftExcept (nameOfText name)) t.toDocument
    return replaced t
  else return unchanged s

end QueryGate.Archive
