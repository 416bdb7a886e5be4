import QueryGate.Catalog.Codec
import QueryGate.Ddl.Grammar
import QueryGate.Ddl.Import
import QueryGate.Fault
import QueryGate.Json.Parser

/-!
Loading a catalog from a text that may be a document or a script of declarations. A document has its
tables under `tables`, there or inside `schema`.
-/

namespace QueryGate

namespace Catalog

/-- The catalog that a script declares. -/
def ofDdl (d : Dialect) (sql : String) : Except Fault Catalog :=
  match Ddl.statements? d sql with
  | some statements => .ok (Ddl.catalog statements)
  | none => .error (.ddl "the text cannot be read as SQL statements")

/-- The tables of a document whose keys are unique. -/
def tablesMember? (j : Json) : Option Json :=
  match j with
  | .object _ =>
    match (j.member? "schema").bind (Json.member? "tables") with
    | some tables => some tables
    | none => j.member? "tables"
  | _ => none

def ofDocument (j : Json) : Except Fault Catalog :=
  match tablesMember? j.collapse with
  | some (.object members) =>
    ((ofJson depthLimit (.object members)).map normalize).mapError Fault.tables
  | _ => .error .payloadWithoutTables

/-- Whether a payload is meant as a document. -/
def looksLikeDocument (payload : String) : Bool :=
  payload.toList.head?.any fun c => c = '\x7b' || c = '[' || c = '"'

def ofPayload (d : Dialect) (text : String) : Except Fault Catalog :=
  let payload := Text.trim text
  if payload.isEmpty then .error .emptyPayload
  else if !looksLikeDocument payload then ofDdl d payload
  else match Json.parse? payload with
    | some j => if j.isFreeForm depthLimit then ofDocument j else .error .payloadNotJson
    | none => .error .payloadNotJson

end Catalog

end QueryGate
