import QueryGate.Proofs.Documents
import QueryGate.Snapshot.Payload

/-!
Snapshots that are updated again and again. However a snapshot was come by, what its updates leave
has the checksum of its tables, no column twice in a table, and the time of the last update that
changed something.
-/

namespace QueryGate.Snapshot

/-- The ways to come by a snapshot: a new one, a stored one under whatever checksum, one that is
read from a document and one that is loaded from a payload. -/
inductive Started : Snapshot → Prop
  | taken (name : String) (dialect? : Option String) (tables : Catalog) (now : Timestamp) :
      Started (take name dialect? tables now)
  | restored (m : Metadata) (tables : Catalog) : Started (restore m tables)
  | opened {text : String} {s : Snapshot} (h : ofDocument text = .ok s) : Started s
  | loaded {text name : String} {dialect? : Option String} {now : Timestamp} {s : Snapshot}
      (h : ofPayload text name dialect? now = .ok s) : Started s

/-- A snapshot that is what its tables make it: the checksum is theirs, and no table has two columns
of one normal form. -/
structure Consistent (s : Snapshot) : Prop where
  checksum : s.checksum = s.tables.fingerprint
  columns : ∀ e ∈ s.tables.entries, (e.2.columns.map Column.normalName).Nodup

/-! ### New snapshots -/

lemma exists_ofDocument_of_stored? {payload : String} {s : Snapshot}
    (h : stored? payload = some s) : ofDocument payload = .ok s := by
  rw [stored?] at h
  split at h
  · rcases hs : ofDocument payload with e | t
    · rw [hs] at h
      cases h
    · rw [hs] at h
      exact congrArg Except.ok (Option.some.inj h)
  · cases h

/-- Every way to come by a snapshot ends in taking one, so all that is known of a snapshot that is
taken is known of it. -/
lemma Started.exists_take {s : Snapshot} (h : s.Started) :
    ∃ (name : String) (dialect? : Option String) (tables : Catalog) (now : Timestamp),
      s = take name dialect? tables now := by
  have hopened {text : String} {s : Snapshot} (h : ofDocument text = .ok s) :
      ∃ name dialect? tables now, s = take name dialect? tables now := by
    obtain ⟨m, tables, rfl⟩ := exists_restore_of_ofDocument h
    exact ⟨m.name, m.dialect?, tables, m.updated, rfl⟩
  cases h with
  | taken name dialect? tables now => exact ⟨name, dialect?, tables, now, rfl⟩
  | restored m tables => exact ⟨m.name, m.dialect?, tables, m.updated, rfl⟩
  | opened h => exact hopened h
  | @loaded text name dialect? now _ h =>
    rw [ofPayload] at h
    rcases hstored : stored? (Text.trim text) with _ | t
    · rw [hstored] at h
      rcases htables : Catalog.ofPayload (Dialect.ofName? dialect?) (Text.trim text) with e | tables
      · simp [htables, bind, Except.bind] at h
      · simp only [htables, bind, Except.bind] at h
        exact ⟨name, dialect?, tables, now, (Except.ok.inj h).symm⟩
    · rw [hstored] at h
      rw [← Except.ok.inj h]
      exact hopened (exists_ofDocument_of_stored? hstored)

lemma consistent_take (name : String) (dialect? : Option String) (tables : Catalog)
    (now : Timestamp) : (take name dialect? tables now).Consistent := by
  refine ⟨rfl, fun e he => ?_⟩
  exact Catalog.nodup_of_mem_normalize he

lemma Started.consistent {s : Snapshot} (h : s.Started) : s.Consistent := by
  obtain ⟨name, dialect?, tables, now, rfl⟩ := h.exists_take
  exact consistent_take name dialect? tables now

/-! ### One update -/

/-- Tables that are to be put in place, and when. -/
structure Revision where
  tables : Catalog
  now : Timestamp

/-- Whether an update changes the snapshot, and what it leaves. -/
def revise (s : Snapshot) (r : Revision) : Bool × Snapshot :=
  (s.differsFrom r.tables, s.update r.tables r.now)

/-- All that an update can do: it leaves the snapshot as it is, or takes a new one under the same
name and dialect. -/
lemma revise_cases (s : Snapshot) (r : Revision) :
    r.tables.normalize.fingerprint = s.checksum ∧ s.revise r = (false, s) ∨
      r.tables.normalize.fingerprint ≠ s.checksum ∧
        s.revise r = (true, take s.name s.dialect? r.tables r.now) := by
  by_cases h : r.tables.normalize.fingerprint = s.checksum
  · have hsame : s.differsFrom r.tables = false := by simp [differsFrom, h]
    exact .inl ⟨h, by simp [revise, update, hsame]⟩
  · have hdiffers : s.differsFrom r.tables = true := by simp [differsFrom, h]
    exact .inr ⟨h, by simp [revise, update, hdiffers]⟩

/-! ### All updates -/

/-- What updates one after the other say, and what they leave. -/
def reviseAll (s : Snapshot) : List Revision → List Bool × Snapshot
  | [] => ([], s)
  | r :: rs =>
    let rest := (s.revise r).2.reviseAll rs
    ((s.revise r).1 :: rest.1, rest.2)

/-- When the updates that changed something were made. -/
def changeTimes (rs : List Revision) (changed : List Bool) : List Timestamp :=
  ((rs.zip changed).filter (·.2)).map (·.1.now)

/-- What an update keeps, every run keeps. -/
lemma reviseAll_induction {P : Snapshot → Prop} (hstep : ∀ s r, P s → P (revise s r).2)
    {s : Snapshot} (hs : P s) (rs : List Revision) : P (s.reviseAll rs).2 := by
  induction rs generalizing s with
  | nil => exact hs
  | cons r rs ih => exact ih (hstep s r hs)

lemma Consistent.revise {s : Snapshot} (hs : s.Consistent) (r : Revision) :
    (s.revise r).2.Consistent := by
  obtain ⟨-, h⟩ | ⟨-, h⟩ := s.revise_cases r
  · rwa [h]
  · rw [h]
    exact consistent_take _ _ _ _

lemma name_reviseAll (s : Snapshot) (rs : List Revision) :
    (s.reviseAll rs).2.name = s.name ∧ (s.reviseAll rs).2.dialect? = s.dialect? := by
  refine reviseAll_induction (P := fun t => t.name = s.name ∧ t.dialect? = s.dialect?)
    (fun t r ht => ?_) ⟨rfl, rfl⟩ rs
  obtain ⟨-, h⟩ | ⟨-, h⟩ := t.revise_cases r
  · rwa [h]
  · rw [h]
    exact ht

lemma changeTimes_cons (r : Revision) (rs : List Revision) (b : Bool) (bs : List Bool) :
    changeTimes (r :: rs) (b :: bs) =
      if b then r.now :: changeTimes rs bs else changeTimes rs bs := by
  cases b <;> rfl

lemma updated_reviseAll (s : Snapshot) (rs : List Revision) :
    (s.reviseAll rs).2.updated = (changeTimes rs (s.reviseAll rs).1).getLastD s.updated := by
  induction rs generalizing s with
  | nil => rfl
  | cons r rs ih =>
    rw [reviseAll, ih, changeTimes_cons]
    obtain ⟨-, h⟩ | ⟨-, h⟩ := s.revise_cases r
    · rw [h]
      rfl
    · rw [h, if_pos rfl, List.getLastD_cons]
      rfl

lemma length_reviseAll (s : Snapshot) (rs : List Revision) :
    (s.reviseAll rs).1.length = rs.length := by
  induction rs generalizing s with
  | nil => rfl
  | cons r rs ih => simp [reviseAll, ih]

lemma reviseAll_concat (s : Snapshot) (rs : List Revision) (r : Revision) :
    s.reviseAll (rs ++ [r]) =
      ((s.reviseAll rs).1 ++ [((s.reviseAll rs).2.revise r).1],
        ((s.reviseAll rs).2.revise r).2) := by
  induction rs generalizing s with
  | nil => rfl
  | cons q rs ih => simp [reviseAll, ih]

/-- **Updates keep a snapshot consistent.** However it was come by, after any updates its checksum is
that of its tables, no table has two columns of one normal form, name and dialect are the old ones,
and its time is that of the last update that changed something. One more update says that it changes
nothing just when the fingerprint of the new tables in normal form is the checksum, and then the
snapshot stays as it is; otherwise it has the new tables and their time. -/
theorem Started.reviseAll_consistent {s : Snapshot} (hs : s.Started) (rs : List Revision) :
    let run := s.reviseAll rs
    run.2.Consistent ∧ run.2.name = s.name ∧ run.2.dialect? = s.dialect? ∧
      run.1.length = rs.length ∧ run.2.updated = (changeTimes rs run.1).getLastD s.updated ∧
      ∀ r : Revision, ∃ (changed : Bool) (next : Snapshot),
        s.reviseAll (rs ++ [r]) = (run.1 ++ [changed], next) ∧
        (changed = false ↔ r.tables.normalize.fingerprint = run.2.checksum) ∧
        (changed = false → next = run.2) ∧
        (changed = true → next = take s.name s.dialect? r.tables r.now) := by
  intro run
  obtain ⟨hname, hdialect⟩ := name_reviseAll s rs
  refine ⟨reviseAll_induction (fun _ r ht => ht.revise r) hs.consistent rs, hname, hdialect,
    length_reviseAll s rs, updated_reviseAll s rs, fun r => ⟨_, _, reviseAll_concat s rs r, ?_⟩⟩
  obtain ⟨hsame, h⟩ | ⟨hdiffers, h⟩ := run.2.revise_cases r
  · rw [h]
    exact ⟨⟨fun _ => hsame, fun _ => rfl⟩, fun _ => rfl, nofun⟩
  · rw [h, hname, hdialect]
    exact ⟨⟨nofun, fun hsame => absurd hsame hdiffers⟩, nofun, fun _ => rfl⟩

/-- A snapshot under a stale checksum: tables that it has change nothing, others do. -/
theorem reviseAll_stale :
    let users : Catalog := .ofList [("users", { Table.empty with columns := [.ofName "id"] })]
    let s := restore ⟨"crm", none, .epoch, "stale"⟩ .empty
    let run := s.reviseAll [⟨.empty, .epoch⟩, ⟨users, .epoch⟩]
    s.Started ∧ run.1 = [false, true] ∧ run.2.Consistent ∧ run.2.name = "crm" ∧
      run.2.tables = users := by
  intro users s run
  have hs : s.Started := .restored _ _
  obtain ⟨hrun, hname, -⟩ := hs.reviseAll_consistent [⟨.empty, .epoch⟩, ⟨users, .epoch⟩]
  exact ⟨hs, by decide +kernel, hrun, hname, by decide +kernel⟩

end QueryGate.Snapshot
