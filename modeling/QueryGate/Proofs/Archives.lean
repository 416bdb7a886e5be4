import QueryGate.Proofs.Holdings
import QueryGate.Proofs.Sessions

/-!
An archive answers like a shelf. Every call finds on the disk what the shelf has, and leaves on it
what the shelf has after the call.
-/

namespace QueryGate.Archive

variable {a : Archive} {w : World} {m : Shelf} {s : Snapshot}

/-! ### Documents -/

lemma run_readDocument (h : Holds a.root.parts w.disk m) (o : Owner) (n : Segment) :
    Action.run w (a.readDocument o n) = (.ok ((m.get? (o, n)).map Snapshot.toDocument), w) := by
  have hread := h.read_document o n
  rw [readDocument, Action.run_ask_bind, World.answer, hread]
  rcases m.get? (o, n) with _ | s <;> rfl

lemma run_writeDocument (h : Holds a.root.parts w.disk m) (o : Owner) (n : Segment)
    (hs : s.Sound) :
    ∃ v : World, Action.run w (a.writeDocument o n s.toDocument) = (.ok (), v) ∧
      Holds a.root.parts v.disk (m.insert (o, n) s) := by
  obtain ⟨e, hplace, he⟩ := h.place_document o n hs
  refine ⟨{ w with disk := e }, ?_, he⟩
  rw [writeDocument, Action.run_ask_bind, World.answer, hplace]
  rfl

lemma run_removeDocument (h : Holds a.root.parts w.disk m) (o : Owner) (n : Segment) :
    ∃ v : World, Action.run w (a.removeDocument o n) = (.ok (m.contains (o, n)), v) ∧
      Holds a.root.parts v.disk (m.erase (o, n)) := by
  obtain ⟨e, hremove, he⟩ := h.remove_document o n
  refine ⟨{ w with disk := e }, ?_, he⟩
  rw [removeDocument, Action.run_ask_bind, World.answer, hremove]
  rfl

lemma run_documents (h : Holds a.root.parts w.disk m) (o : Owner) :
    ∃ xs, Action.run w (a.documents o) = (.ok xs, w) ∧ (xs.map Stored.name).Nodup ∧
      ∀ x, x ∈ xs ↔ ∃ n s, m.get? (o, n) = some s ∧ x = Shelf.stored (n, s) := by
  rcases h.list_directory o with hlist | ⟨hlist, hnone⟩
  · refine ⟨_, ?_, nodup_stored w.disk (a.root.parts ++ [o.text]), fun x => h.mem_stored_iff o⟩
    rw [documents, Action.run_ask_bind, World.answer, hlist]
    rfl
  · refine ⟨[], ?_, List.nodup_nil, fun x => ?_⟩
    · rw [documents, Action.run_ask_bind, World.answer, hlist]
      rfl
    · simp [hnone]

/-! ### Calls -/

lemma run_document (h : Holds a.root.parts w.disk m) (o : Owner) (n : Segment) :
    Action.run w (a.document o n.text) = ((m.find o n).map Snapshot.toDocument, w) := by
  rw [document, nameOfText_text, Action.run_bind_ok (Action.run_liftExcept w _),
    Action.run_bind_ok (run_readDocument h o n), Shelf.find]
  rcases m.get? (o, n) with _ | s <;> rfl

lemma run_get (h : Holds a.root.parts w.disk m) (o : Owner) (n : Segment) :
    Action.run w (a.get o n.text) = (m.find o n, w) := by
  have hdocument := run_document h o n
  rw [get]
  rcases hfind : m.find o n with e | s
  · rw [hfind] at hdocument
    exact Action.run_bind_error hdocument _
  · rw [hfind] at hdocument
    have hs : s.Sound := h.sound _ s (Shelf.find_eq_ok_iff.mp hfind)
    rw [Action.run_bind_ok hdocument, Action.run_liftExcept, hs.ofDocument_toDocument]

lemma run_save (h : Holds a.root.parts w.disk m) (o : Owner) (n : Segment)
    (dialect? : Option String) {tables : Catalog} (hfixed : tables.normalize.HasFixedNames)
    (now : Timestamp) :
    ∃ v : World, Action.run w (a.save o n.text dialect? tables now) =
        (.ok (Snapshot.take n.text dialect? tables now).metadata, v) ∧
      Holds a.root.parts v.disk (m.insert (o, n) (Snapshot.take n.text dialect? tables now)) := by
  obtain ⟨v, hwrite, hv⟩ :=
    run_writeDocument h o n (Snapshot.sound_take hfixed n.text dialect? now)
  refine ⟨v, ?_, hv⟩
  rw [save, nameOfText_text, Action.run_bind_ok (Action.run_liftExcept w _),
    Action.run_bind_ok hwrite, Action.run_pure]

lemma run_update_of_same {o : Owner} {name : String} {tables : Catalog}
    (hget : Action.run w (a.get o name) = (.ok s, w)) (hsame : s.differsFrom tables = false)
    (now : Timestamp) :
    Action.run w (a.update o name tables now) = (.ok (unchanged s), w) := by
  rw [update, Action.run_bind_ok hget, hsame]
  rfl

lemma run_update_of_differs {o : Owner} {n : Segment} {tables : Catalog} {now : Timestamp}
    {v : World} (hget : Action.run w (a.get o n.text) = (.ok s, w))
    (hdiffers : s.differsFrom tables = true)
    (hwrite : Action.run w (a.writeDocument o n
      (Snapshot.take s.name s.dialect? tables now).toDocument) = (.ok (), v)) :
    Action.run w (a.update o n.text tables now) =
      (.ok (replaced (.take s.name s.dialect? tables now)), v) := by
  have htake : s.update tables now = .take s.name s.dialect? tables now := by
    rw [Snapshot.update, if_pos hdiffers]
  rw [update, Action.run_bind_ok hget, if_pos hdiffers, htake, nameOfText_text,
    Action.run_bind_ok (Action.run_liftExcept w _), Action.run_bind_ok hwrite]
  rfl

lemma run_update (h : Holds a.root.parts w.disk m) {o : Owner} {n : Segment}
    (hs : m.find o n = .ok s) {tables : Catalog} (hfixed : tables.normalize.HasFixedNames)
    (now : Timestamp) :
    ∃ v : World, Action.run w (a.update o n.text tables now) =
        (.ok (m.update o n tables now s).1, v) ∧
      Holds a.root.parts v.disk (m.update o n tables now s).2 := by
  have hget := run_get h o n
  rw [hs] at hget
  rw [Shelf.update]
  by_cases hsame : tables.normalize.fingerprint = s.checksum
  · rw [if_pos hsame]
    exact ⟨w, run_update_of_same hget (by simp [Snapshot.differsFrom, hsame]) now, h⟩
  · obtain ⟨v, hwrite, hv⟩ :=
      run_writeDocument h o n (Snapshot.sound_take hfixed s.name s.dialect? now)
    rw [if_neg hsame]
    exact ⟨v, run_update_of_differs hget (by simp [Snapshot.differsFrom, hsame]) hwrite, hv⟩

lemma run_update_missing (h : Holds a.root.parts w.disk m) {o : Owner} {n : Segment} {e : Fault}
    (hs : m.find o n = .error e) (tables : Catalog) (now : Timestamp) :
    Action.run w (a.update o n.text tables now) = (.error e, w) := by
  have hget := run_get h o n
  rw [hs] at hget
  exact Action.run_bind_error hget _

lemma run_delete (h : Holds a.root.parts w.disk m) (o : Owner) (n : Segment) :
    ∃ v : World, Action.run w (a.delete o n.text) = (.ok (m.contains (o, n)), v) ∧
      Holds a.root.parts v.disk (m.erase (o, n)) := by
  rw [delete, nameOfText_text, Action.run_bind_ok (Action.run_liftExcept w _)]
  exact run_removeDocument h o n

lemma run_diff (h : Holds a.root.parts w.disk m) (o : Owner) (n : Segment) (tables : Catalog) :
    Action.run w (a.diff o n.text tables) =
      ((m.find o n).map fun s => .between s.tables tables.normalize, w) := by
  have hget := run_get h o n
  rw [diff]
  rcases hfind : m.find o n with e | s
  · rw [hfind] at hget
    exact Action.run_bind_error hget _
  · rw [hfind] at hget
    rw [Action.run_bind_ok hget]
    rfl

/-! ### Lists -/

lemma run_listed? (h : Holds a.root.parts w.disk m) {o : Owner} {n : Segment}
    (hs : m.get? (o, n) = some s) :
    Action.run w (a.listed? o (Shelf.stored (n, s))) = (.ok (some (Shelf.listed n s)), w) := by
  have hread := run_readDocument h o n
  have hsound : s.Sound := h.sound _ s hs
  rw [hs] at hread
  rw [listed?, Shelf.stored, nameOfText_text, Action.run_bind_ok (Action.run_liftExcept w _),
    Action.run_bind_ok hread, Action.run_pure]
  simp only [Option.map_some, Option.bind_eq_bind, Option.bind_some, Option.pure_def,
    hsound.ofDocument_toDocument, Except.toOption, Shelf.listed]

lemma run_list (h : Holds a.root.parts w.disk m) (o : Owner) :
    Action.run w (a.list o) = (.ok (m.list o), w) := by
  obtain ⟨xs, hrun, hnames, hmem⟩ := run_documents h o
  have hlisted : ∀ x ∈ xs, Action.run w (a.listed? o x) = (.ok (m.listed? o x), w) := by
    intro x hx
    obtain ⟨n, s, hs, rfl⟩ := (hmem x).mp hx
    rw [run_listed? h hs, Shelf.listed?_stored hs]
  have hperm : xs.Perm ((m.snapshots o).map Shelf.stored) := by
    refine (List.perm_ext_iff_of_nodup hnames.of_map (m.nodup_stored o)).mpr fun x => ?_
    rw [hmem, List.mem_map]
    constructor
    · rintro ⟨n, s, hs, rfl⟩
      exact ⟨(n, s), Shelf.mem_snapshots_iff.mpr hs, rfl⟩
    · rintro ⟨⟨n, s⟩, hs, rfl⟩
      exact ⟨n, s, Shelf.mem_snapshots_iff.mp hs, rfl⟩
  have hfound := (hperm.map (m.listed? o)).filterMap id
  rw [m.filterMap_listed? o] at hfound
  rw [list, Action.run_bind_ok hrun, Action.run_bind_ok (Action.run_mapM hlisted), Action.run_pure,
    Shelf.list, Listed.mergeSort_eq_of_perm (m.nodup_listed o) hfound.symm]

/-! ### Runs -/

lemma run_perform (h : Holds a.root.parts w.disk m) {c : Call} (hc : c.HasFixedNames) :
    ∃ v : World, Action.run w (c.perform a) = ((m.answer c).1, v) ∧
      Holds a.root.parts v.disk (m.answer c).2 := by
  cases c with
  | save o n dialect? tables now =>
    obtain ⟨v, hrun, hv⟩ := run_save h o n dialect? (hc tables rfl) now
    refine ⟨v, ?_, hv⟩
    rw [Call.perform, Action.run_map, hrun]
    rfl
  | update o n tables now =>
    rw [Call.perform, Action.run_map, Shelf.answer]
    rcases hfind : m.find o n with e | s
    · refine ⟨w, ?_, h⟩
      rw [run_update_missing h hfind]
      rfl
    · obtain ⟨v, hrun, hv⟩ := run_update h hfind (hc tables rfl) now
      refine ⟨v, ?_, hv⟩
      rw [hrun]
      rfl
  | delete o n =>
    obtain ⟨v, hrun, hv⟩ := run_delete h o n
    refine ⟨v, ?_, hv⟩
    rw [Call.perform, Action.run_map, hrun]
    rfl
  | get o n =>
    refine ⟨w, ?_, h⟩
    rw [Call.perform, Action.run_map, run_get h]
    rfl
  | document o n =>
    refine ⟨w, ?_, h⟩
    rw [Call.perform, Action.run_map, run_document h, Shelf.answer]
    rcases m.find o n <;> rfl
  | diff o n tables =>
    refine ⟨w, ?_, h⟩
    rw [Call.perform, Action.run_map, run_diff h, Shelf.answer]
    rcases m.find o n <;> rfl
  | list o =>
    refine ⟨w, ?_, h⟩
    rw [Call.perform, Action.run_map, run_list h]
    rfl

lemma performAll_of_holds (h : Holds a.root.parts w.disk m) {cs : List Call}
    (hcs : ∀ c ∈ cs, c.HasFixedNames) :
    (a.performAll w cs).1 = (m.answerAll cs).1 ∧
      Holds a.root.parts (a.performAll w cs).2.disk (m.answerAll cs).2 := by
  induction cs generalizing w m with
  | nil => exact ⟨rfl, h⟩
  | cons c cs ih =>
    obtain ⟨v, hrun, hv⟩ := run_perform h (hcs c List.mem_cons_self)
    obtain ⟨hanswers, hholds⟩ := ih hv fun c' hc' => hcs c' (List.mem_cons_of_mem _ hc')
    simp only [performAll, hrun, Shelf.answerAll]
    exact ⟨congrArg _ hanswers, hholds⟩

/-- **An archive answers like a map**: calls on an archive whose root is vacant have the answers
that they have on a shelf that starts empty, whoever makes them and in whatever order. -/
theorem performAll_eq_answerAll (hroot : w.disk.Vacant a.root.parts) {cs : List Call}
    (hcs : ∀ c ∈ cs, c.HasFixedNames) :
    (a.performAll w cs).1 = (Shelf.answerAll .empty cs).1 :=
  (performAll_of_holds (holds_empty hroot) hcs).1

lemma vacant_empty (parts : List String) : Disk.empty.Vacant parts := by
  have hfile (there : List String) : Disk.empty.isFile there = false :=
    Disk.isFile_of_get?_eq_none (OrderedMap.get?_empty there)
  refine ⟨?_, fun rest => OrderedMap.get?_empty _⟩
  rw [Disk.isBlocked, List.any_eq_false]
  intro there _
  rw [hfile]
  simp

/-- An archive, one of its owners and a name, for calls on an empty disk. -/
def depot : Archive := ⟨.ofText "/data"⟩

def keeper : Owner := ⟨"u1", by decide +kernel⟩

def label : Segment := ⟨"crm", by decide +kernel⟩

def oneColumn (column : String) : Catalog := .ofList [("users", ⟨[.ofName column], [], []⟩)]

/-- A snapshot is stored, does not change, is listed and is taken away. -/
def visit : List Call :=
  [.save keeper label none (oneColumn "id") .epoch, .update keeper label (oneColumn "id") .epoch,
    .list keeper, .delete keeper label, .delete keeper label, .get keeper label]

theorem performAll_visit :
    (depot.performAll .bare visit).1.map Except.toOption =
      [some (.saved ⟨"crm", none, .epoch, "48e125d5"⟩),
        some (.updated ⟨false, "No changes detected.", ⟨"crm", none, .epoch, "48e125d5"⟩⟩),
        some (.listed [⟨"crm", .epoch, some 252⟩]),
        some (.deleted true), some (.deleted false), none] := by
  rw [performAll_eq_answerAll (vacant_empty _) (by decide +kernel)]
  decide +kernel

end QueryGate.Archive
