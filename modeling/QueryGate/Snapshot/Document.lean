import QueryGate.Fault
import QueryGate.Json.Parser
import QueryGate.Json.Printer
import QueryGate.Snapshot
import QueryGate.Timestamp.Reading

/-!
The written form of a snapshot: a document with its metadata and its tables.
-/

namespace QueryGate.Snapshot

namespace Metadata

def toJson (m : Metadata) : Json :=
  .object (("name", .string m.name) :: (Json.optional "dialect" (m.dialect?.map .string) ++
    [("updatedAt", .string m.updated.toText), ("checksum", .string m.checksum)]))

structure Fields where
  name? : Option String := none
  dialect? : Option (Option String) := none
  updated? : Option Timestamp := none
  checksum? : Option String := none

def timestampOfJson (j : Json) : Except Mismatch Timestamp := do
  match Timestamp.read? (← j.asString) with
  | some t => return t
  | none => throw (.unlike j "a timestamp")

def Fields.take (f : Fields) : String × Json → Except Mismatch Fields
  | (key, j) =>
    if key = "name" then return { f with name? := ← Json.once key f.name? j.asString }
    else if key = "dialect" then
      return { f with dialect? := ← Json.once key f.dialect? (j.asOptional Json.asString) }
    else if key = "updatedAt" ∨ key = "updated_at" then
      return { f with updated? := ← Json.once key f.updated? (timestampOfJson j) }
    else if key = "checksum" then
      return { f with checksum? := ← Json.once key f.checksum? j.asString }
    else return f

def Fields.finish (f : Fields) : Except Mismatch Metadata := do
  return ⟨← Json.required "name" f.name?, f.dialect?.join,
    ← Json.required "updatedAt" f.updated?, ← Json.required "checksum" f.checksum?⟩

def ofJson : Json → Except Mismatch Metadata
  | .object members => do (← members.foldlM Fields.take {}).finish
  | .array items => do
    if 4 < items.length then throw (.long items.length)
    (← (["name", "dialect", "updatedAt", "checksum"].zip items).foldlM Fields.take {}).finish
  | j => .error (.unlike j "metadata")

end Metadata

/-- How deep a column of a document may be nested: five levels of it are around the column. -/
def columnDepth : Nat := Catalog.depthLimit - 5

/-- The tables of the `schema` part of a document, which may be left out. -/
def tablesOfJson (j : Json) : Except Mismatch Catalog := do
  let take (met : Option Catalog) : String × Json → Except Mismatch (Option Catalog)
    | (key, j) =>
      if key = "tables" then Json.once key met (Catalog.ofJson columnDepth j) else return met
  match j with
  | .object members => return (← members.foldlM take none).getD .empty
  | .array [] => return .empty
  | .array [j] => Catalog.ofJson columnDepth j
  | .array items => throw (.long items.length)
  | j => throw (.unlike j "a schema")

structure Parts where
  metadata? : Option Metadata := none
  tables? : Option Catalog := none

def Parts.take (p : Parts) : String × Json → Except Mismatch Parts
  | (key, j) =>
    if key = "meta" then
      return { p with metadata? := ← Json.once key p.metadata? (Metadata.ofJson j) }
    else if key = "schema" then
      return { p with tables? := ← Json.once key p.tables? (tablesOfJson j) }
    else return p

def Parts.finish (p : Parts) : Except Mismatch (Metadata × Catalog) := do
  return (← Json.required "meta" p.metadata?, ← Json.required "schema" p.tables?)

/-- The metadata and the tables that a document holds. -/
def partsOfJson : Json → Except Mismatch (Metadata × Catalog)
  | .object members => do (← members.foldlM Parts.take {}).finish
  | .array items => do
    if 2 < items.length then throw (.long items.length)
    (← (["meta", "schema"].zip items).foldlM Parts.take {}).finish
  | j => .error (.unlike j "a snapshot")

/-- The document with some metadata and some tables. -/
def documentOf (m : Metadata) (tables : Catalog) : Json :=
  .object [("meta", m.toJson), ("schema", .object [("tables", tables.toJson)])]

def toDocument (s : Snapshot) : String := (documentOf s.metadata s.tables).pretty

def partsOfDocument (text : String) : Except Fault (Metadata × Catalog) :=
  match Json.parse? text with
  | none => .error .notSnapshot
  | some j => (partsOfJson j).mapError fun _ => .notSnapshot

def ofDocument (text : String) : Except Fault Snapshot :=
  (partsOfDocument text).map fun p => restore p.1 p.2

end QueryGate.Snapshot
