import QueryGate.Reference
import QueryGate.Snapshot

/-!
Whether the dotted names of a statement are columns of a snapshot. A qualifier that is an alias
stands for its table, and any other for a table of its own name.
-/

namespace QueryGate.Resolution

/-- The dotted names that stand for no column, in the order of the statement. -/
structure Report where
  unknown : List String
  deriving DecidableEq, Repr

def Report.ok (r : Report) : Bool := r.unknown.isEmpty

/-- The table that a qualifier stands for. -/
def base (aliases : OrderedMap String String) (qualifier : String) : String :=
  (aliases.get? qualifier).getD qualifier

/-- How a reference is reported, if it is unknown: by its qualifier when there is no such table, and
by the table when only the column is missing. -/
def unknown? (tables : Catalog) (aliases : OrderedMap String String) (r : Reference) :
    Option String :=
  let b := base aliases r.qualifier
  match tables.get? b with
  | none => some (r.qualifier ++ "." ++ r.column)
  | some t => if t.hasColumn r.column then none else some (b ++ "." ++ r.column)

def ofExtraction (tables : Catalog) (e : Extraction) : Report :=
  ⟨e.references.filterMap (unknown? tables e.aliases)⟩

def report (words : ClauseWords) (s : Snapshot) (sql : String) : Report :=
  ofExtraction s.tables (Extraction.ofText words sql)

end QueryGate.Resolution
