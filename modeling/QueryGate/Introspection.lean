import QueryGate.Catalog.Rows
import QueryGate.Fault

/-!
Reading the catalog of a running database. The role that reads it should see no user data; one that
does is refused, or noted where that is not enforced.
-/

namespace QueryGate

/-- What is noted of a role that can read user data. -/
structure CatalogNotice where
  code : String
  reason : String
  deriving DecidableEq, Repr

/-- The tables of one schema of a database. -/
structure Introspection where
  dialect : String
  schema : String
  tables : Catalog
  notice? : Option CatalogNotice
  deriving DecidableEq

namespace Introspection

/-- What is asked of a database. -/
structure Query where
  address : String
  schema : String
  limit : Nat
  timeout : Nat
  deriving DecidableEq, Repr

/-- What a database lists about itself. -/
structure Listing where
  readsData : Bool
  names : List String
  columns : List ColumnRow
  primaryKeys : List KeyRow
  foreignKeys : List ForeignKeyRow
  deriving DecidableEq, Repr

def notice : CatalogNotice :=
  ⟨Fault.catalogCode,
    "Compromise mode: the role has access to data, but the session is READ ONLY."⟩

def judgeRole (readsData enforced : Bool) : Except Fault (Option CatalogNotice) :=
  if !readsData then .ok none
  else if enforced then .error .readsUserData
  else .ok (some notice)

def standardDialect : String := "postgres"

/-- The schema that is read when a blank one is named. -/
def standardSchema : String := "public"

/-- The tables of a listing, if its role may be used. -/
def ofListing (schema : String) (enforced : Bool) (l : Listing) : Except Fault Introspection := do
  let notice? ← judgeRole l.readsData enforced
  return ⟨standardDialect, schema, .ofRows l.names l.columns l.primaryKeys l.foreignKeys, notice?⟩

def greatestLimit : Nat := 2000

/-- How many tables are read when so many are asked for. -/
def tableLimit (asked : Nat) : Nat := max 1 (min asked greatestLimit)

end Introspection

end QueryGate
