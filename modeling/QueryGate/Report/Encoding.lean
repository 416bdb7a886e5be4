import QueryGate.Catalog.Difference
import QueryGate.Gate
import QueryGate.Snapshot.Document

/-!
Results as documents. Fields that have no value are left out.
-/

namespace QueryGate

def Hazard.Report.toJson (r : Hazard.Report) : Json :=
  .object ([("blocked", .bool r.blocked), ("matchedKeywords", .strings r.matched)] ++
    Json.optional "reason" (r.reason?.map .string))

def Reference.toJson (r : Reference) : Json :=
  .object [("tableOrAlias", .string r.qualifier), ("column", .string r.column)]

def Extraction.toJson (e : Extraction) : Json :=
  .object
    [("aliasMap", .object (e.aliases.entries.map fun a => (a.1, .string a.2))),
      ("references", .array (e.references.map Reference.toJson))]

def Resolution.Report.toJson (r : Resolution.Report) : Json :=
  .object [("ok", .bool r.ok), ("unknown", .strings r.unknown)]

def Verdict.text : Verdict → String
  | .allowed => "allowed"
  | .warned => "warn"
  | .blocked => "blocked"

def Decision.toJson (d : Decision) : Json :=
  .object
    ([("verdict", .string d.verdict.text), ("sql", .string d.sql), ("danger", d.hazard.toJson)] ++
      Json.optional "validation" (d.resolution?.map Resolution.Report.toJson) ++
      [("warnings", .strings d.warnings)])

def TableChange.toJson (c : TableChange) : Json :=
  .object
    [("table", .string c.table), ("addedColumns", .strings c.addedColumns),
      ("removedColumns", .strings c.removedColumns)]

def Difference.toJson (d : Difference) : Json :=
  .object
    [("added", .strings d.added), ("removed", .strings d.removed),
      ("changed", .array (d.changed.map TableChange.toJson))]

end QueryGate
