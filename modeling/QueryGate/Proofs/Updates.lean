import QueryGate.Proofs.Archives
import QueryGate.Proofs.Canonical

/-!
An update stores every change that a difference reports, unless two different texts have the same
checksum. What it stores is found afterwards.
-/

namespace QueryGate.Archive

variable {a : Archive} {w : World} {o : Owner} {n : Segment}

/-! ### A document that is there -/

lemma run_get_of_read {text : String} (h : w.disk.read (a.documentPath o n) = .ok text) :
    Action.run w (a.get o n.text) = (Snapshot.ofDocument text, w) := by
  have hread : Action.run w (a.readDocument o n) = (.ok (some text), w) := by
    rw [readDocument, Action.run_ask_bind, World.answer, h]
    rfl
  have hdocument : Action.run w (a.document o n.text) = (.ok text, w) := by
    rw [document, nameOfText_text, Action.run_bind_ok (Action.run_liftExcept w _),
      Action.run_bind_ok hread]
    rfl
  rw [get, Action.run_bind_ok hdocument, Action.run_liftExcept]

lemma read_of_run_readDocument {text : String} {v : World}
    (h : Action.run w (a.readDocument o n) = (.ok (some text), v)) :
    w.disk.read (a.documentPath o n) = .ok text := by
  rw [readDocument, Action.run_ask_bind, World.answer] at h
  rcases hdisk : w.disk.read (a.documentPath o n) with cause | t
  · rw [hdisk] at h
    cases cause <;> cases h
  · rw [hdisk] at h
    cases h
    rfl

/-- A snapshot is got only from a document that is there. -/
lemma exists_read_of_get {name : String} {s : Snapshot}
    (h : (Action.run w (a.get o name)).1 = .ok s) :
    ∃ n : Segment, n.text = name ∧ ∃ text, w.disk.read (a.documentPath o n) = .ok text ∧
      Snapshot.ofDocument text = .ok s := by
  obtain ⟨text, v, hdocument, hs⟩ := Action.exists_of_run_bind h
  obtain ⟨n, u, hn, hread⟩ := Action.exists_of_run_bind (congrArg Prod.fst hdocument)
  rw [Action.run_liftExcept, Prod.mk.injEq] at hn
  obtain ⟨hname, rfl⟩ := hn
  refine ⟨n, text_of_nameOfText hname, text, ?_, ?_⟩
  · obtain ⟨text?, u, htext, hfound⟩ := Action.exists_of_run_bind hread
    rcases text? with _ | t
    · cases hfound
    · cases hfound
      exact read_of_run_readDocument htext
  · rw [Action.run_liftExcept] at hs
    exact hs

lemma exists_write {old : String} (h : w.disk.read (a.documentPath o n) = .ok old)
    (text : String) :
    ∃ v : World, Action.run w (a.writeDocument o n text) = (.ok (), v) ∧
      v.disk.read (a.documentPath o n) = .ok text := by
  obtain ⟨e, hplace⟩ := Disk.exists_place h text
  refine ⟨{ w with disk := e }, ?_, ?_⟩
  · rw [writeDocument, Action.run_ask_bind, World.answer, hplace]
    rfl
  · refine Disk.read_place ?_ (fileName_ne_empty n) hplace
    rw [parts_directory]
    simp

/-! ### Updates -/

lemma exists_get_of_diff {name : String} {tables : Catalog} {d : Difference}
    (h : (Action.run w (a.diff o name tables)).1 = .ok d) :
    ∃ s, (Action.run w (a.get o name)).1 = .ok s ∧ d = .between s.tables tables.normalize := by
  obtain ⟨s, v, hget, hd⟩ := Action.exists_of_run_bind h
  cases hd
  exact ⟨s, congrArg Prod.fst hget, rfl⟩

/-- **An update stores what a difference reports**: tables that differ have other canonical texts
than the stored ones, and they are stored unless the checksums of the two texts are equal. Tables
with fixed names are then found as they were given, in normal form. -/
theorem update_of_difference {name : String} {tables : Catalog} {d : Difference}
    (hdiff : (Action.run w (a.diff o name tables)).1 = .ok d) (hd : d.isEmpty = false)
    (now : Timestamp) :
    ∃ s u v, (Action.run w (a.get o name)).1 = .ok s ∧
      Action.run w (a.update o name tables now) = (.ok u, v) ∧
      s.tables.canonical ≠ tables.normalize.canonical ∧
      (u.updated = true ↔
        checksum s.tables.canonical ≠ checksum tables.normalize.canonical) ∧
      (u.updated = true → tables.normalize.HasFixedNames →
        ∃ t, (Action.run v (a.get o name)).1 = .ok t ∧ t.tables = tables.normalize) := by
  obtain ⟨s, hs, rfl⟩ := exists_get_of_diff hdiff
  obtain ⟨n, rfl, text, hread, htext⟩ := exists_read_of_get hs
  have hget := run_get_of_read hread
  rw [htext] at hget
  have hchecksum := Snapshot.checksum_of_ofDocument htext
  have hcanonical := Difference.canonical_ne_of_difference hd
  by_cases hsame : checksum s.tables.canonical = checksum tables.normalize.canonical
  · have hno : s.differsFrom tables = false := by
      simp [Snapshot.differsFrom, hchecksum, Catalog.fingerprint, hsame]
    refine ⟨s, _, w, hs, run_update_of_same hget hno now, hcanonical, ?_, ?_⟩
    · simp [unchanged, hsame]
    · intro hu
      cases hu
  · have hyes : s.differsFrom tables = true := by
      simp [Snapshot.differsFrom, hchecksum, Catalog.fingerprint, Ne.symm hsame]
    obtain ⟨v, hwrite, hv⟩ :=
      exists_write hread (Snapshot.take s.name s.dialect? tables now).toDocument
    refine ⟨s, _, v, hs, run_update_of_differs hget hyes hwrite, hcanonical, ?_, ?_⟩
    · simp [replaced, hsame]
    · intro _ hfixed
      have hsound := Snapshot.sound_take hfixed s.name s.dialect? now
      refine ⟨Snapshot.take s.name s.dialect? tables now, ?_, rfl⟩
      rw [run_get_of_read hv, hsound.ofDocument_toDocument]

/-! ### Texts with one checksum -/

/-- Surroundings in which one snapshot is stored. -/
def stocked : World :=
  (Action.run .bare (depot.save keeper label.text none (oneColumn "Aa") .epoch)).2

def stockedShelf : Shelf :=
  .insert .empty (keeper, label) (.take label.text none (oneColumn "Aa") .epoch)

lemma holds_stocked : Holds depot.root.parts stocked.disk stockedShelf := by
  have hempty : Holds depot.root.parts World.bare.disk .empty := holds_empty (vacant_empty _)
  have hfixed : (oneColumn "Aa").normalize.HasFixedNames := by decide +kernel
  obtain ⟨v, hrun, hv⟩ := run_save hempty keeper label none hfixed .epoch
  rw [stocked, hrun]
  exact hv

lemma diff_stocked (column : String) :
    (Action.run stocked (depot.diff keeper label.text (oneColumn column))).1 =
      (stockedShelf.find keeper label).map fun s =>
        .between s.tables (oneColumn column).normalize := by
  rw [run_diff holds_stocked]

/-- Two columns whose names have one checksum: the change is reported and not stored. -/
theorem exists_change_lost :
    ¬ ∀ (a : Archive) (w : World) (o : Owner) (name : String) (tables : Catalog) (d : Difference)
        (now : Timestamp), (Action.run w (a.diff o name tables)).1 = .ok d → d.isEmpty = false →
      ∃ u v, Action.run w (a.update o name tables now) = (.ok u, v) ∧ u.updated = true ∧
        ∃ t, (Action.run v (a.get o name)).1 = .ok t ∧ t.tables = tables.normalize := by
  intro h
  have hdiff : (Action.run stocked (depot.diff keeper label.text (oneColumn "BB"))).1 =
      .ok ⟨[], [], [⟨"users", ["BB"], ["Aa"]⟩]⟩ := by
    rw [diff_stocked]
    exact eq_ok_of_toOption (by decide +kernel)
  obtain ⟨u, v, hrun, hu, -⟩ := h depot stocked keeper label.text (oneColumn "BB") _ .epoch hdiff
    (by decide)
  have hfixed : (oneColumn "BB").normalize.HasFixedNames := by decide +kernel
  have hfind : stockedShelf.find keeper label =
      .ok (.take label.text none (oneColumn "Aa") .epoch) := rfl
  obtain ⟨v', hrun', -⟩ := run_update holds_stocked hfind hfixed .epoch
  rw [hrun'] at hrun
  cases hrun
  revert hu
  decide +kernel

/-- Another column has another checksum, and is found after the update. -/
theorem update_renamed :
    ∃ u v, Action.run stocked (depot.update keeper label.text (oneColumn "id") .epoch) =
        (.ok u, v) ∧ u.updated = true ∧
      ∃ t, (Action.run v (depot.get keeper label.text)).1 = .ok t ∧ t.tables = oneColumn "id" := by
  have hdiff : (Action.run stocked (depot.diff keeper label.text (oneColumn "id"))).1 =
      .ok ⟨[], [], [⟨"users", ["id"], ["Aa"]⟩]⟩ := by
    rw [diff_stocked]
    exact eq_ok_of_toOption (by decide +kernel)
  obtain ⟨s, u, v, hs, hrun, -, hu, hlater⟩ := update_of_difference hdiff (by decide) .epoch
  have hstored : s = .take label.text none (oneColumn "Aa") .epoch := by
    rw [run_get holds_stocked] at hs
    exact (Except.ok.inj hs).symm
  have hupdated : u.updated = true := hu.mpr (by rw [hstored]; decide +kernel)
  obtain ⟨t, ht, htables⟩ := hlater hupdated (by decide +kernel)
  exact ⟨u, v, hrun, hupdated, t, ht, htables.trans (by decide +kernel)⟩

end QueryGate.Archive
