import QueryGate.Proofs.Archives
import QueryGate.Proofs.Results
import QueryGate.Proofs.Survival

/-!
What an archive lists of a directory with any files in it. Files that are no documents and documents
that are no snapshots are left out; a document whose name is no step of a path or whose bytes are no
text stops the whole list.
-/

namespace QueryGate

/-! ### Directories of files -/

/-- A directory that can be listed, with some files and nothing else in it. -/
structure Disk.HoldsFiles (d : Disk) (p : Path) (files : List (String × ByteArray)) : Prop where
  directory : d.find p = .ok .directory
  entries : (d.below p.parts).entries = files.map fun f => (f.1, .file f.2)

namespace Disk

variable {d : Disk} {p : Path} {files : List (String × ByteArray)} {f : String × ByteArray}

lemma node?_of_find {n : Node} (h : d.find p = .ok n) :
    d.isBlocked p.parts = false ∧ d.node? p.parts = some n := by
  rw [find] at h
  split_ifs at h with hblocked
  rcases hnode : d.node? p.parts with _ | m
  · rw [hnode] at h
    cases h
  · rw [hnode] at h
    cases h
    exact ⟨Bool.eq_false_iff.mpr hblocked, rfl⟩

lemma read_of_find {content : ByteArray} (h : d.find p = .ok (.file content)) :
    d.read p = match String.fromUTF8? content with
      | some text => .ok text
      | none => .error .notText := by
  rw [read, h]
  rfl

lemma HoldsFiles.list (h : d.HoldsFiles p files) :
    d.list p = .ok (files.map fun f => ⟨f.1, some f.2.size⟩) := by
  have hentries : d.entries p.parts = files.map fun f => ⟨f.1, some f.2.size⟩ := by
    rw [entries_eq_map_below, h.entries, List.map_map]
    rfl
  rw [Disk.list, h.directory, ← hentries]
  rfl

lemma HoldsFiles.read (h : d.HoldsFiles p files) (hp : p.parts ≠ []) (hf : f ∈ files)
    (hname : f.1 ≠ "") :
    d.read (p.child f.1) = match String.fromUTF8? f.2 with
      | some text => .ok text
      | none => .error .notText := by
  obtain ⟨hclear, hnode⟩ := node?_of_find h.directory
  have hfile : d.isFile p.parts = false := by
    rw [isFile, hnode]
  have hlength : 2 ≤ (p.parts ++ [f.1]).length := by
    have := List.length_pos_iff.mpr hp
    rw [List.length_append, List.length_singleton]
    omega
  have hthere : d.node? (p.parts ++ [f.1]) = some (.file f.2) := by
    rw [node?_of_two_le _ hlength, ← get?_below, OrderedMap.get?_eq_some_iff, h.entries]
    exact List.mem_map_of_mem hf
  have hfind := find_child hname hclear hfile
  rw [hthere] at hfind
  exact read_of_find hfind

end Disk

namespace Archive

variable {a : Archive} {o : Owner} {w : World} {files : List (String × ByteArray)}
  {f : String × ByteArray} {name : String}

/-- A file as it is listed, when it is a document with a usable name and holds a snapshot. -/
def listedFile? (f : String × ByteArray) : Option Listed := do
  let name ← documentName? f.1
  let n ← (nameOfText name).toOption
  let text ← String.fromUTF8? f.2
  let s ← (Snapshot.ofDocument text).toOption
  return ⟨n.text, s.updated, some f.2.size⟩

/-- Whether a file lets a list go on: if it is a document, its name is usable and it is a text. -/
def LetsList (f : String × ByteArray) : Prop :=
  ∀ name ∈ documentName? f.1,
    Segment.isUsable name = true ∧ (String.fromUTF8? f.2).isSome = true

instance (f : String × ByteArray) : Decidable (LetsList f) :=
  inferInstanceAs (Decidable (∀ name ∈ documentName? f.1,
    Segment.isUsable name = true ∧ (String.fromUTF8? f.2).isSome = true))

/-- A file as the document that is found for it. -/
def storedFile? (f : String × ByteArray) : Option Stored :=
  (documentName? f.1).map (⟨·, f.2.size⟩)

lemma nameOfText_of_isUsable (h : Segment.isUsable name = true) :
    nameOfText name = .ok ⟨name, h⟩ := by
  rw [nameOfText, Segment.ofText, dif_pos h]

lemma exists_nameOfText_error (h : Segment.isUsable name = false) :
    ∃ e, nameOfText name = .error e := by
  rw [nameOfText, Segment.ofText, dif_neg (Bool.eq_false_iff.mp h)]
  split_ifs
  · exact ⟨_, rfl⟩
  · exact ⟨_, rfl⟩

/-! ### One file -/

lemma run_readDocument_file (h : w.disk.HoldsFiles (a.directory o) files) (hf : f ∈ files)
    {n : Segment} (hname : documentName? f.1 = some n.text) :
    Action.run w (a.readDocument o n) = (match String.fromUTF8? f.2 with
      | some text => .ok (some text)
      | none => .error (.unreadable (a.documentPath o n).toText .notText), w) := by
  obtain ⟨-, hfile⟩ := documentName?_eq_some_iff.mp hname
  have hdirectory : (a.directory o).parts ≠ [] := by
    rw [parts_directory]
    simp
  have hpath : (a.directory o).child f.1 = a.documentPath o n := by
    rw [hfile]
    rfl
  have hread := h.read hdirectory hf (by rw [hfile]; exact fileName_ne_empty n)
  rw [hpath] at hread
  rw [readDocument, Action.run_ask_bind, World.answer, hread]
  rcases String.fromUTF8? f.2 with _ | text <;> rfl

lemma run_listed?_of_letsList (h : w.disk.HoldsFiles (a.directory o) files) (hf : f ∈ files)
    (hname : documentName? f.1 = some name) (hlets : LetsList f) :
    Action.run w (a.listed? o ⟨name, f.2.size⟩) = (.ok (listedFile? f), w) := by
  obtain ⟨husable, htext⟩ := hlets name hname
  obtain ⟨text, htext⟩ := Option.isSome_iff_exists.mp htext
  have hread := run_readDocument_file (n := ⟨name, husable⟩) h hf hname
  rw [htext] at hread
  rw [listed?, nameOfText_of_isUsable husable, Action.run_bind_ok (Action.run_liftExcept w _),
    Action.run_bind_ok hread, Action.run_pure, listedFile?, hname, htext]
  simp [nameOfText_of_isUsable husable, Except.toOption]

lemma exists_run_listed?_error (h : w.disk.HoldsFiles (a.directory o) files) (hf : f ∈ files)
    (hname : documentName? f.1 = some name) (hstops : ¬ LetsList f) :
    ∃ e, Action.run w (a.listed? o ⟨name, f.2.size⟩) = (.error e, w) := by
  rw [listed?]
  rcases husable : Segment.isUsable name
  · obtain ⟨e, he⟩ := exists_nameOfText_error husable
    rw [he]
    exact ⟨e, Action.run_bind_error (Action.run_liftExcept w _) _⟩
  · have htext : String.fromUTF8? f.2 = none := by
      rw [← Option.not_isSome_iff_eq_none]
      refine fun htext => hstops fun other hother => ?_
      rw [hname] at hother
      cases hother
      exact ⟨husable, htext⟩
    have hread := run_readDocument_file (n := ⟨name, husable⟩) h hf hname
    rw [htext] at hread
    rw [nameOfText_of_isUsable husable, Action.run_bind_ok (Action.run_liftExcept w _)]
    exact ⟨_, Action.run_bind_error hread _⟩

/-! ### All files -/

lemma run_documents_files (h : w.disk.HoldsFiles (a.directory o) files) :
    Action.run w (a.documents o) = (.ok (files.filterMap storedFile?), w) := by
  have hstored : (files.map fun f => (⟨f.1, some f.2.size⟩ : Disk.Entry)).filterMap stored? =
      files.filterMap storedFile? := by
    rw [List.filterMap_map]
    refine List.filterMap_congr fun f _ => ?_
    rw [Function.comp_apply, stored?, storedFile?]
    rcases documentName? f.1 with _ | name <;> rfl
  rw [documents, Action.run_ask_bind, World.answer, h.list, ← hstored]
  rfl

/-- What is found for a document, and the world in which it is found. -/
lemma run_listed?_stored (h : w.disk.HoldsFiles (a.directory o) files) {x : Stored}
    (hx : x ∈ files.filterMap storedFile?) :
    Action.run w (a.listed? o x) = ((Action.run w (a.listed? o x)).1, w) := by
  obtain ⟨f, hf, hx⟩ := List.mem_filterMap.mp hx
  obtain ⟨name, hname, rfl⟩ := Option.map_eq_some_iff.mp hx
  by_cases hlets : LetsList f
  · rw [run_listed?_of_letsList h hf hname hlets]
  · obtain ⟨e, he⟩ := exists_run_listed?_error h hf hname hlets
    rw [he]

lemma exists_results (h : w.disk.HoldsFiles (a.directory o) files) {fs : List (String × ByteArray)}
    (hsub : ∀ f ∈ fs, f ∈ files ∧ LetsList f) :
    ∃ found, (fs.filterMap storedFile?).mapM (fun x => (Action.run w (a.listed? o x)).1) =
      .ok found ∧ found.filterMap id = fs.filterMap listedFile? := by
  induction fs with
  | nil => exact ⟨[], rfl, rfl⟩
  | cons f fs ih =>
    obtain ⟨⟨hf, hlets⟩, hfs⟩ := List.forall_mem_cons.mp hsub
    obtain ⟨found, hfound, hlisted⟩ := ih hfs
    rcases hname : documentName? f.1 with _ | name
    · refine ⟨found, ?_, ?_⟩
      · rw [List.filterMap_cons_none (by simp [storedFile?, hname]), hfound]
      · rw [List.filterMap_cons_none (by simp [listedFile?, hname]), hlisted]
    · refine ⟨listedFile? f :: found, ?_, ?_⟩
      · have hstored : storedFile? f = some ⟨name, f.2.size⟩ := by simp [storedFile?, hname]
        rw [List.filterMap_cons_some hstored, List.mapM_cons,
          run_listed?_of_letsList h hf hname hlets, hfound]
        rfl
      · rw [List.filterMap_cons, List.filterMap_cons, hlisted]
        rfl

lemma exists_results_error (h : w.disk.HoldsFiles (a.directory o) files) (hf : f ∈ files)
    (hstops : ¬ LetsList f) :
    ∃ e, (files.filterMap storedFile?).mapM (fun x => (Action.run w (a.listed? o x)).1) =
      .error e := by
  obtain ⟨name, hname⟩ : ∃ name, documentName? f.1 = some name := by
    rw [LetsList, not_forall] at hstops
    obtain ⟨name, hstops⟩ := hstops
    exact ⟨name, of_not_imp hstops⟩
  have hmem : (⟨name, f.2.size⟩ : Stored) ∈ files.filterMap storedFile? :=
    List.mem_filterMap.mpr ⟨f, hf, by simp [storedFile?, hname]⟩
  obtain ⟨e, he⟩ := exists_run_listed?_error h hf hname hstops
  rcases hfound : (files.filterMap storedFile?).mapM fun x => (Action.run w (a.listed? o x)).1
    with e' | found
  · exact ⟨e', rfl⟩
  · obtain ⟨y, hy⟩ := exists_of_mem_of_mapM hfound hmem
    rw [he] at hy
    cases hy

/-! ### Lists -/

lemma exists_run_list (h : w.disk.HoldsFiles (a.directory o) files)
    (hlets : ∀ f ∈ files, LetsList f) :
    ∃ ls, Action.run w (a.list o) = (.ok ls, w) ∧ ls.Perm (files.filterMap listedFile?) ∧
      ls.Pairwise fun x y => x.before y = true := by
  obtain ⟨found, hfound, hlisted⟩ := exists_results h fun f hf => ⟨hf, hlets f hf⟩
  have hrun := Action.run_mapM_results fun x hx => run_listed?_stored h hx
  rw [hfound] at hrun
  refine ⟨(found.filterMap id).mergeSort Listed.before, ?_, ?_, Listed.sorted _⟩
  · rw [list, Action.run_bind_ok (run_documents_files h), Action.run_bind_ok hrun, Action.run_pure]
  · rw [← hlisted]
    exact List.mergeSort_perm _ _

lemma exists_run_list_error (h : w.disk.HoldsFiles (a.directory o) files) (hf : f ∈ files)
    (hstops : ¬ LetsList f) : ∃ e, Action.run w (a.list o) = (.error e, w) := by
  obtain ⟨e, he⟩ := exists_results_error h hf hstops
  have hrun := Action.run_mapM_results fun x hx => run_listed?_stored h hx
  rw [he] at hrun
  refine ⟨e, ?_⟩
  rw [list, Action.run_bind_ok (run_documents_files h), Action.run_bind_error hrun]

/-- **When a list has all snapshots of a directory.** Whatever files are in it and in whatever
order, the list is the files that hold snapshots, sorted, just when every document has a usable name
and is a text; otherwise there is no list. -/
theorem list_files_iff (h : w.disk.HoldsFiles (a.directory o) files) :
    (∃ ls, Action.run w (a.list o) = (.ok ls, w) ∧ ls.Perm (files.filterMap listedFile?) ∧
      ls.Pairwise fun x y => x.before y = true) ↔ ∀ f ∈ files, LetsList f := by
  constructor
  · rintro ⟨ls, hrun, -, -⟩ f hf
    by_contra hstops
    obtain ⟨e, he⟩ := exists_run_list_error h hf hstops
    rw [he] at hrun
    cases hrun
  · exact exists_run_list h

/-- An archive whose keeper has some files. -/
def stockedWith (files : List (String × ByteArray)) : World :=
  { World.bare with disk := ⟨.ofList ((["/", "data", "u1"], .directory) ::
      files.map fun f => (["/", "data", "u1", f.1], .file f.2))⟩ }

lemma entries_stockedWith (h : (files.map Prod.fst).Nodup) :
    (stockedWith files).disk.nodes.entries = (["/", "data", "u1"], .directory) ::
      files.map fun f => (["/", "data", "u1", f.1], .file f.2) := by
  have hkeys : Function.Injective fun name => ["/", "data", "u1", name] := by
    intro name name' he
    simpa using he
  have hmap := h.map hkeys
  rw [List.map_map] at hmap
  refine OrderedMap.entries_ofList ?_
  rw [List.map_cons, List.map_map]
  exact List.nodup_cons.mpr ⟨by simp, hmap⟩

lemma parts_directory_depot : (depot.directory keeper).parts = ["/", "data", "u1"] := by
  decide +kernel

lemma find_stockedWith (h : (files.map Prod.fst).Nodup) :
    (stockedWith files).disk.find (depot.directory keeper) = .ok .directory := by
  have hway : (stockedWith files).disk.nodes.get? ["/", "data"] = none := by
    rw [OrderedMap.get?_eq_none_iff, OrderedMap.keys, entries_stockedWith h]
    simp
  have hthere : (stockedWith files).disk.nodes.get? ["/", "data", "u1"] = some .directory := by
    rw [OrderedMap.get?_eq_some_iff, entries_stockedWith h]
    exact List.mem_cons_self
  have hblocked : (stockedWith files).disk.isBlocked ["/", "data", "u1"] = false := by
    simp [Disk.isBlocked, Disk.beginnings, Disk.isFile, Disk.node?, hway]
  have htext : (depot.directory keeper).toText.isEmpty = false := by decide +kernel
  have hnode : (stockedWith files).disk.node? ["/", "data", "u1"] = some .directory := by
    rw [Disk.node?_of_two_le _ (by simp), hthere]
  rw [Disk.find, parts_directory_depot, hblocked, htext, hnode]
  rfl

/-- Any files with names of their own can be what the keeper has. -/
lemma holdsFiles_stockedWith (h : (files.map Prod.fst).Nodup) :
    (stockedWith files).disk.HoldsFiles (depot.directory keeper) files where
  directory := find_stockedWith h
  entries := by
    have hnone : Disk.nameBelow? ["/", "data", "u1"] ["/", "data", "u1"] = none := by decide
    have hname (name : String) : Disk.nameBelow? ["/", "data", "u1"] ["/", "data", "u1", name] =
        some name := rfl
    rw [parts_directory_depot, Disk.below, OrderedMap.select]
    simp only [OrderedMap.Selection.named, Disk.childrenOf, entries_stockedWith h,
      List.filterMap_cons, hnone, Option.map_none, List.filterMap_map]
    rw [← List.filterMap_eq_map]
    exact List.filterMap_congr fun f _ => by simp [hname]

def crmDocument : String := (Snapshot.take "crm" none (oneColumn "id") .epoch).toDocument

/-- A file that is no text, but no document, a document that is no snapshot, and one that is. -/
def mixedFiles : List (String × ByteArray) :=
  [("notes.txt", ⟨#[0xff]⟩), ("broken.json", "\x7b".toUTF8), ("crm.json", crmDocument.toUTF8)]

lemma letsList_toUTF8 {file : String} (text : String)
    (h : ∀ name ∈ documentName? file, Segment.isUsable name = true) :
    LetsList (file, text.toUTF8) :=
  fun name hname => ⟨h name hname, by rw [Disk.fromUTF8?_toUTF8, Option.isSome_some]⟩

lemma listedFile?_toUTF8 {n : Segment} {text : String} {s : Snapshot}
    (h : Snapshot.ofDocument text = .ok s) :
    listedFile? (fileName n, text.toUTF8) = some ⟨n.text, s.updated, some text.toUTF8.size⟩ := by
  simp only [listedFile?, documentName?_fileName, nameOfText_text, Disk.fromUTF8?_toUTF8, h,
    Option.bind_eq_bind, Option.bind_some, Except.toOption]
  rfl

theorem list_mixedFiles :
    (stockedWith mixedFiles).disk.HoldsFiles (depot.directory keeper) mixedFiles ∧
      Action.run (stockedWith mixedFiles) (depot.list keeper) =
        (.ok [⟨"crm", .epoch, some crmDocument.toUTF8.size⟩], stockedWith mixedFiles) := by
  have h : (stockedWith mixedFiles).disk.HoldsFiles (depot.directory keeper) mixedFiles :=
    holdsFiles_stockedWith (by simp [mixedFiles])
  have hlets : ∀ f ∈ mixedFiles, LetsList f := by
    simp only [mixedFiles, List.forall_mem_cons]
    exact ⟨by decide +kernel, letsList_toUTF8 _ (by decide +kernel),
      letsList_toUTF8 _ (by decide +kernel), by simp⟩
  obtain ⟨ls, hrun, hperm, -⟩ := (list_files_iff h).mpr hlets
  have hfiles : mixedFiles.filterMap listedFile? =
      [⟨"crm", .epoch, some crmDocument.toUTF8.size⟩] := by
    have hnotes : listedFile? ("notes.txt", ⟨#[0xff]⟩) = none := by decide +kernel
    have hbroken : listedFile? ("broken.json", "\x7b".toUTF8) = none := by decide +kernel
    have hcrm : listedFile? ("crm.json", crmDocument.toUTF8) =
        some ⟨"crm", .epoch, some crmDocument.toUTF8.size⟩ :=
      listedFile?_toUTF8 (n := ⟨"crm", by decide +kernel⟩) (Snapshot.ofDocument_take ..)
    rw [mixedFiles, List.filterMap_cons_none hnotes, List.filterMap_cons_none hbroken,
      List.filterMap_cons_some hcrm]
    rfl
  rw [hfiles, List.perm_singleton] at hperm
  rw [hperm] at hrun
  exact ⟨h, hrun⟩

/-- A document that is no text hides the others. -/
theorem exists_list_stopped : ¬ ∀ (a : Archive) (o : Owner) (w : World)
    (files : List (String × ByteArray)), w.disk.HoldsFiles (a.directory o) files →
      ∃ ls, Action.run w (a.list o) = (.ok ls, w) ∧ ls.Perm (files.filterMap listedFile?) ∧
        ls.Pairwise fun x y => x.before y = true := by
  intro hall
  let files := ("bad.json", ⟨#[0xff]⟩) :: mixedFiles
  have h : (stockedWith files).disk.HoldsFiles (depot.directory keeper) files :=
    holdsFiles_stockedWith (by simp [files, mixedFiles])
  obtain ⟨e, he⟩ := exists_run_list_error h List.mem_cons_self (by decide +kernel)
  obtain ⟨ls, hrun, -⟩ := hall depot keeper _ files h
  rw [he] at hrun
  cases hrun

end Archive

end QueryGate
