import QueryGate.Catalog.Fingerprint
import QueryGate.Catalog.Outline
import QueryGate.Timestamp

/-!
A catalog as it was at some time, under a name. Its tables are normalized, and its checksum is their
fingerprint.
-/

namespace QueryGate

/-- What is known of a snapshot without its tables. -/
structure Snapshot.Metadata where
  name : String
  dialect? : Option String
  updated : Timestamp
  checksum : String
  deriving DecidableEq, Repr

structure Snapshot where
  name : String
  dialect? : Option String
  tables : Catalog
  checksum : String
  updated : Timestamp
  deriving DecidableEq

namespace Snapshot

def take (name : String) (dialect? : Option String) (tables : Catalog) (now : Timestamp) :
    Snapshot :=
  let tables := tables.normalize
  ⟨name, dialect?, tables, tables.fingerprint, now⟩

/-- The snapshot of stored tables; the stored checksum does not count. -/
def restore (m : Metadata) (tables : Catalog) : Snapshot := take m.name m.dialect? tables m.updated

def metadata (s : Snapshot) : Metadata := ⟨s.name, s.dialect?, s.updated, s.checksum⟩

def outline (s : Snapshot) : String := s.tables.outline s.dialect?

/-- Whether other tables would change the checksum. -/
def differsFrom (s : Snapshot) (tables : Catalog) : Bool :=
  tables.normalize.fingerprint ≠ s.checksum

/-- Puts other tables in place; tables with the same fingerprint change nothing. -/
def update (s : Snapshot) (tables : Catalog) (now : Timestamp) : Snapshot :=
  if s.differsFrom tables then take s.name s.dialect? tables now else s

end Snapshot

end QueryGate
