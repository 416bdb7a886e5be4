import QueryGate.Proofs.Documents
import QueryGate.Proofs.Listings
import QueryGate.Proofs.Selections

/-!
Archives as maps. A shelf has a snapshot under each owner and name, and the calls on an archive are
answered from it without a disk.
-/

namespace QueryGate

namespace Archive

/-- What can be asked of an archive. Times are given with the calls. -/
inductive Call
  | save (o : Owner) (n : Segment) (dialect? : Option String) (tables : Catalog) (now : Timestamp)
  | update (o : Owner) (n : Segment) (tables : Catalog) (now : Timestamp)
  | delete (o : Owner) (n : Segment)
  | get (o : Owner) (n : Segment)
  | document (o : Owner) (n : Segment)
  | diff (o : Owner) (n : Segment) (tables : Catalog)
  | list (o : Owner)

inductive Answer
  | saved (m : Snapshot.Metadata)
  | updated (u : Update)
  | deleted (there : Bool)
  | found (s : Snapshot)
  | document (text : String)
  | difference (d : Difference)
  | listed (ls : List Listed)
  deriving DecidableEq

/-- The tables that a call would store. -/
def Call.tables? : Call → Option Catalog
  | .save _ _ _ tables _ => some tables
  | .update _ _ tables _ => some tables
  | _ => none

/-- Whether the tables that are to be stored have names in normal form once they are normalized. -/
def Call.HasFixedNames (c : Call) : Prop := ∀ tables ∈ c.tables?, tables.normalize.HasFixedNames

instance (c : Call) : Decidable c.HasFixedNames :=
  inferInstanceAs (Decidable (∀ tables ∈ c.tables?, tables.normalize.HasFixedNames))

/-- A call on the archive itself. -/
def Call.perform (a : Archive) : Call → Action Answer
  | .save o n dialect? tables now => .saved <$> a.save o n.text dialect? tables now
  | .update o n tables now => .updated <$> a.update o n.text tables now
  | .delete o n => .deleted <$> a.delete o n.text
  | .get o n => .found <$> a.get o n.text
  | .document o n => .document <$> a.document o n.text
  | .diff o n tables => .difference <$> a.diff o n.text tables
  | .list o => .listed <$> a.list o

/-- Calls one after another, with the answer to each. -/
def performAll (a : Archive) (w : World) : List Call → List (Except Fault Answer) × World
  | [] => ([], w)
  | c :: cs =>
    let (r, v) := Action.run w (c.perform a)
    let (rs, u) := a.performAll v cs
    (r :: rs, u)

lemma nameOfText_text (n : Segment) : nameOfText n.text = .ok n := by
  rw [nameOfText, Segment.ofText, dif_pos n.usable]

lemma text_of_nameOfText {name : String} {n : Segment} (h : nameOfText name = .ok n) :
    n.text = name := by
  rw [nameOfText, Segment.ofText] at h
  split_ifs at h
  cases h
  rfl

end Archive

/-- Snapshots by owner and name. -/
abbrev Shelf := OrderedMap (Owner × Segment) Snapshot

namespace Shelf

open Archive (Call Answer Listed)

def find (m : Shelf) (o : Owner) (n : Segment) : Except Fault Snapshot :=
  match m.get? (o, n) with
  | some s => .ok s
  | none => .error (.snapshotMissing n.text)

def listed (n : Segment) (s : Snapshot) : Listed :=
  ⟨n.text, s.updated, some s.toDocument.utf8ByteSize⟩

/-- The names and snapshots of an owner. -/
def snapshots (m : Shelf) (o : Owner) : List (Segment × Snapshot) :=
  m.entries.filterMap fun ((o', n), s) => if o' = o then some (n, s) else none

def list (m : Shelf) (o : Owner) : List Listed :=
  ((m.snapshots o).map fun (n, s) => listed n s).mergeSort Listed.before

/-- Keeps the name and the dialect, unless the fingerprint is the one that is stored. -/
def update (m : Shelf) (o : Owner) (n : Segment) (tables : Catalog) (now : Timestamp)
    (s : Snapshot) : Archive.Update × Shelf :=
  let tables := tables.normalize
  if tables.fingerprint = s.checksum then (Archive.unchanged s, m)
  else
    let t := { s with tables, checksum := tables.fingerprint, updated := now }
    (Archive.replaced t, m.insert (o, n) t)

/-- The answer to a call, and the shelf after it. -/
def answer (m : Shelf) : Call → Except Fault Answer × Shelf
  | .save o n dialect? tables now =>
    let s := Snapshot.take n.text dialect? tables now
    (.ok (.saved s.metadata), m.insert (o, n) s)
  | .update o n tables now =>
    match m.find o n with
    | .ok s => let (u, m) := m.update o n tables now s; (.ok (.updated u), m)
    | .error e => (.error e, m)
  | .delete o n => (.ok (.deleted (m.contains (o, n))), m.erase (o, n))
  | .get o n => ((m.find o n).map .found, m)
  | .document o n => ((m.find o n).map fun s => .document s.toDocument, m)
  | .diff o n tables =>
    ((m.find o n).map fun s => .difference (.between s.tables tables.normalize), m)
  | .list o => (.ok (.listed (m.list o)), m)

def answerAll (m : Shelf) : List Call → List (Except Fault Answer) × Shelf
  | [] => ([], m)
  | c :: cs =>
    let (r, n) := m.answer c
    let (rs, l) := n.answerAll cs
    (r :: rs, l)

/-! ### Lists -/

/-- A snapshot as the document that is found for it. -/
def stored (e : Segment × Snapshot) : Archive.Stored := ⟨e.1.text, e.2.toDocument.utf8ByteSize⟩

/-- The listed form of a document that is found. -/
def listed? (m : Shelf) (o : Owner) (x : Archive.Stored) : Option Listed :=
  match Archive.nameOfText x.name with
  | .ok n => (m.get? (o, n)).map (listed n)
  | .error _ => none

lemma find_eq_ok_iff {m : Shelf} {o : Owner} {n : Segment} {s : Snapshot} :
    m.find o n = .ok s ↔ m.get? (o, n) = some s := by
  rw [find]
  rcases m.get? (o, n) with _ | t <;> simp

/-- The keys of an owner, by the names. -/
def keysOf (o : Owner) : OrderedMap.Selection (Owner × Segment) Segment where
  name? k := if k.1 = o then some k.2 else none
  key n := (o, n)
  name?_eq_some_iff := by simp [Prod.ext_iff]

lemma snapshots_eq (m : Shelf) (o : Owner) : m.snapshots o = (m.select (keysOf o)).entries := by
  refine List.filterMap_congr ?_
  rintro ⟨⟨p, n⟩, s⟩ _
  by_cases hp : p = o
  · simp [keysOf, hp]
  · simp [keysOf, hp]

lemma mem_snapshots_iff {m : Shelf} {o : Owner} {n : Segment} {s : Snapshot} :
    (n, s) ∈ m.snapshots o ↔ m.get? (o, n) = some s := by
  rw [snapshots_eq, ← OrderedMap.get?_eq_some_iff, OrderedMap.get?_select]
  rfl

lemma nodup_snapshots (m : Shelf) (o : Owner) :
    ((m.snapshots o).map fun e => e.1.text).Nodup := by
  have hkeys := (m.select (keysOf o)).keys_nodup.map Segment.text_injective
  rwa [← snapshots_eq, List.map_map] at hkeys

lemma listed?_stored {m : Shelf} {o : Owner} {n : Segment} {s : Snapshot}
    (hs : m.get? (o, n) = some s) : m.listed? o (stored (n, s)) = some (listed n s) := by
  rw [listed?, stored, Archive.nameOfText_text]
  simp [hs]

lemma nodup_stored (m : Shelf) (o : Owner) : ((m.snapshots o).map stored).Nodup := by
  refine List.Nodup.of_map Archive.Stored.name ?_
  rw [List.map_map]
  exact m.nodup_snapshots o

lemma nodup_listed (m : Shelf) (o : Owner) :
    (((m.snapshots o).map fun (n, s) => listed n s).map Listed.name).Nodup := by
  rw [List.map_map]
  exact m.nodup_snapshots o

/-- What is found for the snapshots of an owner is listed as they are. -/
lemma filterMap_listed? (m : Shelf) (o : Owner) :
    (((m.snapshots o).map stored).map (m.listed? o)).filterMap id =
      (m.snapshots o).map fun (n, s) => listed n s := by
  have hsome : ((m.snapshots o).map stored).map (m.listed? o) =
      ((m.snapshots o).map fun (n, s) => listed n s).map some := by
    rw [List.map_map, List.map_map]
    refine List.map_congr_left ?_
    rintro ⟨n, s⟩ he
    exact listed?_stored (mem_snapshots_iff.mp he)
  rw [hsome, List.filterMap_map, Function.id_comp, List.filterMap_some]

end Shelf

end QueryGate
