import QueryGate.Archive
import QueryGate.Introspection
import QueryGate.Output
import QueryGate.Prompt
import QueryGate.Report.Encoding

/-!
Results for a reader. Each kind of result has a text of its own beside its document.
-/

namespace QueryGate.Report

open Output (line)

/-- The line of an empty list. -/
def nothing : String := line "  (none)"

/-- Texts one after another. -/
def concat (texts : List String) : String := String.join texts

/-- The lines of a text; the end of the last one may be missing. -/
def linesOf (text : String) : List String :=
  let parts := Text.splitAt '\n' text.toList
  let ended := parts.dropLast.map fun l => if l.getLast? = some '\r' then l.dropLast else l
  let last := (parts.getLast?.filter (!·.isEmpty)).toList
  (ended ++ last).map String.ofList

def hazard (o : Output) (r : Hazard.Report) : String :=
  o.render r.toJson <| concat
    [o.heading "Danger Classification",
      if r.blocked then
        line (o.paint [.bold, .red] "DANGEROUS" ++ ": " ++ Text.join ", " r.matched) ++
          (r.reason?.map fun reason => line ("  " ++ reason)).getD ""
      else line "No destructive keywords found"]

def extraction (o : Output) (e : Extraction) : String :=
  o.render e.toJson <| concat
    [o.heading "Aliases",
      if e.aliases.isEmpty then nothing
      else concat (e.aliases.entries.map fun a => line ("  " ++ a.1 ++ " -> " ++ a.2)),
      line "", o.heading "References",
      if e.references.isEmpty then nothing
      else concat (e.references.map fun r => line ("  " ++ r.qualifier ++ "." ++ r.column))]

def resolution (o : Output) (ok : Bool) (unknown : List String) : String :=
  o.render (.object [("ok", .bool ok), ("unknown", .strings unknown)]) <| concat
    [o.heading "Schema Validation",
      if ok then line "All references resolve"
      else concat
        (line (toString unknown.length ++ " unknown reference(s):") ::
          unknown.map fun name => line ("  - " ++ o.paint [.yellow] name))]

def verdict (o : Output) : Verdict → String
  | .allowed => o.paint [.bold, .green] "ALLOWED"
  | .warned => o.paint [.bold, .yellow] "WARN"
  | .blocked => o.paint [.bold, .red] "BLOCKED"

/-- Why a statement is not simply let through; a reason that a warning gives is not repeated. -/
def remarks (d : Decision) : List String :=
  if d.warnings.isEmpty && d.verdict = .blocked then d.hazard.reason?.toList else d.warnings

def decision (o : Output) (index : Nat) (d : Decision) : String :=
  concat
    (line ("[" ++ verdict o d.verdict ++ "] Statement #" ++ toString index) ::
      (linesOf d.sql).map (fun l => line ("  " ++ l)) ++
      (remarks d).map fun w => line ("  ! " ++ w))

/-- Decisions counted from `index` on. -/
def decisionsFrom (o : Output) : Nat → List Decision → String
  | _, [] => ""
  | index, d :: ds => line "" ++ decision o index d ++ decisionsFrom o (index + 1) ds

def decisions (o : Output) (ds : List Decision) : String :=
  o.render (.array (ds.map Decision.toJson)) (o.heading "SQL Check" ++ decisionsFrom o 1 ds)

def generation (o : Output) (request dialect : String) (d : Decision) : String :=
  o.render
    (.object
      [("request", .string request), ("dialect", .string dialect), ("decision", d.toJson)]) <|
    concat
      [o.heading "Generated SQL", line ("Request: " ++ request),
        if dialect = Prompt.standardDialect then "" else line ("Dialect: " ++ dialect),
        line "", decision o 1 d]

def promptPreview (o : Output) (system user : String) : String :=
  o.render (.object [("system", .string system), ("user", .string user)]) <| concat
    [o.heading "DRY RUN - Would send to LLM", line "", line "System:", line system, line "",
      line "User:", line user]

def change (o : Output) (c : TableChange) : String :=
  concat
    (line ("~ " ++ c.table) ::
      c.addedColumns.map (fun name => line (o.paint [.green] ("    + " ++ name))) ++
      c.removedColumns.map fun name => line (o.paint [.red] ("    - " ++ name)))

def difference (o : Output) (d : Difference) : String :=
  o.render d.toJson <|
    o.heading "Schema Diff" ++
      if d.isEmpty then line "No changes"
      else concat
        (d.added.map (fun name => line (o.paint [.green] ("+ " ++ name))) ++
          d.removed.map (fun name => line (o.paint [.red] ("- " ++ name))) ++
          d.changed.map (change o))

def fingerprint (o : Output) (name checksum : String) (tables : Nat) : String :=
  o.render
    (.object [("name", .string name), ("checksum", .string checksum), ("tables", .nat tables)])
    (line (checksum ++ "  " ++ name ++ " (" ++ toString tables ++ " tables)"))

/-- A text with blanks after it up to some width. -/
def padRight (width : Nat) (text : String) : String :=
  text ++ String.ofList (List.replicate (width - text.length) ' ')

def listed (l : Archive.Listed) : String :=
  let size := (l.size?.map fun n => toString n ++ " bytes").getD "-"
  line ("  " ++ padRight 24 l.name ++ " " ++ l.updated.toShortText ++ "  " ++ size)

def listedJson (l : Archive.Listed) : Json :=
  .object
    [("name", .string l.name), ("updated_at", .string l.updated.toText),
      ("size", (l.size?.map Json.nat).getD .null)]

def snapshots (o : Output) (ls : List Archive.Listed) : String :=
  o.render (.array (ls.map listedJson)) <|
    o.heading "Snapshots" ++ if ls.isEmpty then nothing else concat (ls.map listed)

def metadata (o : Output) (m : Snapshot.Metadata) : String :=
  o.render m.toJson <|
    line ("Saved '" ++ m.name ++ "' (" ++ m.dialect?.getD "-" ++ ") checksum " ++ m.checksum ++
      " at " ++ m.updated.write "+00:00")

def update (o : Output) (u : Archive.Update) : String :=
  o.render
    (.object
      [("updated", .bool u.updated), ("reason", .string u.reason), ("meta", u.metadata.toJson)])
    (line (u.reason ++ " checksum " ++ u.metadata.checksum))

def noticeJson (n : CatalogNotice) : Json :=
  .object [("code", .string n.code), ("reason", .string n.reason)]

def introspectionJson (i : Introspection) : Json :=
  .object
    ([("dialect", .string i.dialect), ("schema", .string i.schema),
        ("countTables", .nat i.tables.size), ("tables", i.tables.toJson)] ++
      Json.optional "warning" (i.notice?.map noticeJson))

def introspection (o : Output) (i : Introspection) : String :=
  o.render (introspectionJson i) <| concat
    [o.heading ("Schema '" ++ i.schema ++ "' (" ++ toString i.tables.size ++ " tables)"),
      (i.notice?.map fun n => line (o.paint [.yellow] (n.code ++ ": " ++ n.reason))).getD "",
      concat (i.tables.entries.map fun e =>
        line ("  " ++ e.1 ++ "(" ++ Text.join ", " (e.2.columns.map Column.name) ++ ")"))]

end QueryGate.Report
