import QueryGate.Catalog
import QueryGate.Json.Decode

/-!
Catalogs as documents. A column is written as an object, and may also be read from its bare name;
what is absent or empty is left out.
-/

namespace QueryGate

namespace Column

def toJson (c : Column) : Json :=
  .object (("name", .string c.name) ::
    (Json.optional "type" (c.type?.map .string) ++
      Json.optional "nullable" (c.nullable?.map .bool)))

/-- The fields of a column that have been met. -/
structure Fields where
  name? : Option String := none
  type? : Option (Option String) := none
  nullable? : Option (Option Bool) := none

def asBool : Json → Except Mismatch Bool
  | .bool b => .ok b
  | j => .error (.unlike j "a boolean")

def Fields.take (f : Fields) : String × Json → Except Mismatch Fields
  | (key, j) =>
    if key = "name" then return { f with name? := ← Json.once key f.name? j.asString }
    else if key = "type" then
      return { f with type? := ← Json.once key f.type? (j.asOptional Json.asString) }
    else if key = "nullable" then
      return { f with nullable? := ← Json.once key f.nullable? (j.asOptional asBool) }
    else return f

/-- A column nested no deeper than `limit`. Nothing is said of why it is not one. -/
def ofJson (limit : Nat) (j : Json) : Except Mismatch Column :=
  let column : Except Mismatch Column :=
    match j with
    | .string s => .ok (ofName s)
    | .object members => do
      let f ← members.foldlM Fields.take {}
      return ⟨← Json.required "name" f.name?, f.type?.join, f.nullable?.join⟩
    | _ => .error (.unlike j "a column")
  match column with
  | .ok c => if j.isFreeForm limit then .ok c else .error (.unlikeAny "ColumnRepr")
  | .error _ => .error (.unlikeAny "ColumnRepr")

def listOfJson (limit : Nat) : Json → Except Mismatch (List Column)
  | .array items => items.mapM (ofJson limit)
  | j => .error (.unlike j "a sequence")

end Column

namespace ForeignKey

def toJson (k : ForeignKey) : Json :=
  .object [("column", .string k.column), ("ref_table", .string k.refTable),
    ("ref_column", .string k.refColumn)]

structure Fields where
  column? : Option String := none
  refTable? : Option String := none
  refColumn? : Option String := none

def Fields.take (f : Fields) : String × Json → Except Mismatch Fields
  | (key, j) =>
    if key = "column" then return { f with column? := ← Json.once key f.column? j.asString }
    else if key = "ref_table" then
      return { f with refTable? := ← Json.once key f.refTable? j.asString }
    else if key = "ref_column" then
      return { f with refColumn? := ← Json.once key f.refColumn? j.asString }
    else return f

def ofJson : Json → Except Mismatch ForeignKey
  | .object members => do
    let f ← members.foldlM Fields.take {}
    return ⟨← Json.required "column" f.column?, ← Json.required "ref_table" f.refTable?,
      ← Json.required "ref_column" f.refColumn?⟩
  | .array items => do
    let fields ← (items.take 3).mapM Json.asString
    match fields with
    | [column, refTable, refColumn] =>
      if items.length = 3 then return ⟨column, refTable, refColumn⟩
      else throw (.long items.length)
    | _ => throw (.short items.length "struct ForeignKey with 3 elements")
  | j => .error (.unlike j "struct ForeignKey")

def listOfJson : Json → Except Mismatch (List ForeignKey)
  | .array items => items.mapM ofJson
  | j => .error (.unlike j "a sequence")

end ForeignKey

namespace Table

/-- A list that is left out when it is empty. -/
def optionalList (key : String) (items : List Json) : List (String × Json) :=
  if items.isEmpty then [] else [(key, .array items)]

def toJson (t : Table) : Json :=
  .object (("columns", .array (t.columns.map Column.toJson)) ::
    (optionalList "primaryKey" (t.primaryKey.map .string) ++
      optionalList "foreignKeys" (t.foreignKeys.map ForeignKey.toJson)))

structure Fields where
  columns? : Option (List Column) := none
  primaryKey? : Option (List String) := none
  foreignKeys? : Option (List ForeignKey) := none

def Fields.take (limit : Nat) (f : Fields) : String × Json → Except Mismatch Fields
  | (key, j) =>
    if key = "columns" then
      return { f with columns? := ← Json.once key f.columns? (Column.listOfJson limit j) }
    else if key = "primaryKey" then
      return { f with primaryKey? := ← Json.once key f.primaryKey? j.asStrings }
    else if key = "foreignKeys" then
      return { f with foreignKeys? := ← Json.once key f.foreignKeys? (ForeignKey.listOfJson j) }
    else return f

def Fields.table (f : Fields) : Table :=
  ⟨f.columns?.getD [], f.primaryKey?.getD [], f.foreignKeys?.getD []⟩

def ofJson (limit : Nat) : Json → Except Mismatch Table
  | .object members => return (← members.foldlM (Fields.take limit) {}).table
  | .array items => do
    let f ← (["columns", "primaryKey", "foreignKeys"].zip items).foldlM (Fields.take limit) {}
    if 3 < items.length then throw (.long items.length)
    return f.table
  | j => .error (.unlike j "struct TableDef")

end Table

namespace Catalog

def toJson (c : Catalog) : Json := .object (c.entries.map fun e => (e.1, e.2.toJson))

/-- Tables under their names; columns are nested no deeper than `limit`. -/
def ofJson (limit : Nat) : Json → Except Mismatch Catalog
  | .object members =>
    return .ofList (← members.mapM fun m => return (m.1, ← Table.ofJson limit m.2))
  | j => .error (.unlike j "a map")

/-- How deep a free-form document may be nested. -/
def depthLimit : Nat := 127

end Catalog

end QueryGate
