import QueryGate.Catalog.Payload
import QueryGate.Snapshot.Document

/-!
Loading a snapshot from a payload. A payload that is not a snapshot itself becomes one under the
name and at the time that are given.
-/

namespace QueryGate.Snapshot

/-- The snapshot that a payload holds as it is. -/
def stored? (payload : String) : Option Snapshot :=
  if Catalog.looksLikeDocument payload then (ofDocument payload).toOption else none

def ofPayload (text name : String) (dialect? : Option String) (now : Timestamp) :
    Except Fault Snapshot :=
  let payload := Text.trim text
  match stored? payload with
  | some s => .ok s
  | none => do
    let tables ← Catalog.ofPayload (Dialect.ofName? dialect?) payload
    return take name dialect? tables now

end QueryGate.Snapshot
