import QueryGate.Proofs.Disks
import QueryGate.Proofs.Shelf

/-!
What a disk has for a shelf: a document for each snapshot and no other documents. It is kept so when
a document is put in place or taken away.
-/

namespace QueryGate

/-- A place where nothing stands, with no file on the way to it. -/
structure Disk.Vacant (d : Disk) (parts : List String) : Prop where
  clear : d.isBlocked parts = false
  nothing : ∀ rest, d.nodes.get? (parts ++ rest) = none

namespace Archive

/-- Where an owner's file stands below the root. -/
def filePlace (root : List String) (o : Owner) (file : String) : List String :=
  root ++ [o.text] ++ [file]

/-- The disk has just the documents of a shelf below some parts. -/
structure Holds (root : List String) (d : Disk) (m : Shelf) : Prop where
  clear : d.isBlocked root = false
  rootFree : d.isFile root = false
  ownerFree : ∀ o : Owner, d.isFile (root ++ [o.text]) = false
  owner : ∀ (o : Owner) n s, m.get? (o, n) = some s →
    d.node? (root ++ [o.text]) = some .directory
  document : ∀ o n, d.node? (filePlace root o (fileName n)) =
    (m.get? (o, n)).map fun s => .file s.toDocument.toUTF8
  nothingElse : ∀ o file, (∀ n, file ≠ fileName n) → d.node? (filePlace root o file) = none
  sound : ∀ k s, m.get? k = some s → s.Sound

variable {a : Archive} {d e : Disk} {l m : Shelf} {root : List String}
  {o : Owner} {n : Segment} {s : Snapshot}

/-! ### Places of documents -/

lemma length_filePlace (root : List String) (o : Owner) (file : String) :
    (filePlace root o file).length = root.length + 2 := by
  simp [filePlace]

lemma ne_filePlace {k : List String} (h : k.length ≤ root.length + 1) (o : Owner)
    (file : String) : k ≠ filePlace root o file :=
  Disk.ne_child_of_length (by simpa using h) file

lemma filePlace_inj {p : Owner} {f g : String} (h : filePlace root o f = filePlace root p g) :
    o = p ∧ f = g := by
  rw [filePlace, filePlace] at h
  obtain ⟨h, hfile⟩ := List.append_inj' h rfl
  obtain ⟨-, howner⟩ := List.append_inj' h rfl
  exact ⟨Segment.text_injective (List.singleton_inj.mp howner), List.singleton_inj.mp hfile⟩

lemma two_le_filePlace (root : List String) (o : Owner) (file : String) :
    2 ≤ (filePlace root o file).length := by
  rw [length_filePlace]
  omega

/-! ### Changes -/

/-- A vacant place holds the empty shelf. -/
lemma holds_empty (h : d.Vacant root) : Holds root d .empty := by
  have hnone (o : Owner) (file : String) : d.node? (filePlace root o file) = none := by
    rw [Disk.node?_of_two_le _ (two_le_filePlace root o file), filePlace, List.append_assoc,
      h.nothing]
  refine ⟨h.clear, ?_, fun o => ?_, fun o n s hs => ?_, fun o n => hnone o _,
    fun o file _ => hnone o file, fun k s hs => ?_⟩
  · exact Disk.isFile_of_get?_eq_none (by simpa using h.nothing [])
  · exact Disk.isFile_of_get?_eq_none (h.nothing [o.text])
  · rw [OrderedMap.get?_empty] at hs
    cases hs
  · rw [OrderedMap.get?_empty] at hs
    cases hs

/-- What is kept when one document changes, on the disk as on the shelf. -/
lemma Holds.change (h : Holds root d m) (o : Owner) (n : Segment)
    (hfile : ∀ k, k ≠ filePlace root o (fileName n) → e.isFile k = d.isFile k)
    (hdirectory : ∀ k, k ≠ filePlace root o (fileName n) →
      d.node? k = some .directory → e.node? k = some .directory)
    (hother : ∀ p file, filePlace root p file ≠ filePlace root o (fileName n) →
      e.node? (filePlace root p file) = d.node? (filePlace root p file))
    (hdocument : e.node? (filePlace root o (fileName n)) =
      (l.get? (o, n)).map fun s => .file s.toDocument.toUTF8)
    (howner : ∀ s, l.get? (o, n) = some s → e.node? (root ++ [o.text]) = some .directory)
    (hsound : ∀ s, l.get? (o, n) = some s → s.Sound)
    (hget : ∀ k, k ≠ (o, n) → l.get? k = m.get? k) : Holds root e l := by
  refine ⟨?_, ?_, fun p => ?_, fun p n' s hs => ?_, fun p n' => ?_, fun p file hne => ?_,
    fun k s hs => ?_⟩
  · rw [← h.clear]
    exact Disk.isBlocked_congr_of_shorter fun k hk => hfile k (ne_filePlace (by omega) o _)
  · rw [hfile _ (ne_filePlace (by simp) o _), h.rootFree]
  · rw [hfile _ (ne_filePlace (by simp) o _), h.ownerFree]
  · by_cases hkey : (p, n') = (o, n)
    · cases hkey
      exact howner s hs
    · rw [hget _ hkey] at hs
      exact hdirectory _ (ne_filePlace (by simp) o _) (h.owner p n' s hs)
  · by_cases hkey : (p, n') = (o, n)
    · cases hkey
      exact hdocument
    · rw [hget _ hkey, ← h.document]
      refine hother p _ fun e => hkey ?_
      obtain ⟨ho, hn⟩ := filePlace_inj e
      rw [ho, fileName_injective hn]
  · rw [← h.nothingElse p file hne]
    exact hother p file fun e => hne n (filePlace_inj e).2
  · by_cases hkey : k = (o, n)
    · cases hkey
      exact hsound s hs
    · rw [hget _ hkey] at hs
      exact h.sound k s hs

/-- A new or changed snapshot. -/
lemma Holds.insert (h : Holds root d m) (o : Owner) (n : Segment) (hs : s.Sound) :
    Holds root ((d.prepare (root ++ [o.text])).put (filePlace root o (fileName n))
      (.file s.toDocument.toUTF8)) (m.insert (o, n) s) := by
  have hself : (m.insert (o, n) s).get? (o, n) = some s := by
    rw [OrderedMap.get?_insert, if_pos rfl]
  refine h.change o n (fun k hk => ?_) (fun k hk hd => ?_) (fun p file hne => ?_) ?_ (fun t _ => ?_)
    (fun t ht => ?_) (fun k hk => ?_)
  · exact Disk.isFile_put_prepare hk d _
  · rw [Disk.node?_put_of_ne hk, Disk.node?_prepare_of_some hd]
  · rw [Disk.node?_put_of_ne hne, Disk.node?_prepare_of_lt]
    rw [length_filePlace]
    simp
  · rw [Disk.node?_put _ (two_le_filePlace root o _), if_pos rfl, hself]
    rfl
  · rw [Disk.node?_put_of_ne (ne_filePlace (by simp) o _)]
    exact Disk.node?_prepare_self (h.ownerFree o)
  · rw [hself] at ht
    cases ht
    exact hs
  · rw [OrderedMap.get?_insert, if_neg hk]

/-- A snapshot that is taken away. -/
lemma Holds.erase (h : Holds root d m) (o : Owner) (n : Segment) :
    Holds root ⟨d.nodes.erase (filePlace root o (fileName n))⟩ (m.erase (o, n)) := by
  have hself : (m.erase (o, n)).get? (o, n) = none := by
    rw [OrderedMap.get?_erase, if_pos rfl]
  refine h.change o n (fun k hk => ?_) (fun k hk hd => ?_) (fun p file hne => ?_) ?_
    (fun t ht => ?_) (fun t ht => ?_) (fun k hk => ?_)
  · exact Disk.isFile_congr (Disk.node?_erase_of_ne hk d)
  · rw [Disk.node?_erase_of_ne hk d, hd]
  · exact Disk.node?_erase_of_ne hne d
  · rw [Disk.node?_of_two_le _ (two_le_filePlace root o _), OrderedMap.get?_erase,
      if_pos rfl, hself]
    rfl
  · rw [hself] at ht
    cases ht
  · rw [hself] at ht
    cases ht
  · rw [OrderedMap.get?_erase, if_neg hk]

/-! ### Answers of the disk -/

lemma parts_directory (a : Archive) (o : Owner) :
    (a.directory o).parts = a.root.parts ++ [o.text] :=
  Path.parts_child _ _

lemma parts_documentPath (a : Archive) (o : Owner) (n : Segment) :
    (a.documentPath o n).parts = filePlace a.root.parts o (fileName n) := by
  rw [documentPath, Path.parts_child, parts_directory, filePlace]

lemma Holds.not_isBlocked (h : Holds a.root.parts d m) (o : Owner) :
    d.isBlocked (a.directory o).parts = false := by
  rw [parts_directory, Disk.isBlocked_snoc, h.clear, h.rootFree]
  rfl

lemma Holds.not_isFile (h : Holds a.root.parts d m) (o : Owner) :
    d.isFile (a.directory o).parts = false := by
  rw [parts_directory, h.ownerFree]

lemma Holds.find_document (h : Holds a.root.parts d m) (o : Owner) (n : Segment) :
    d.find (a.documentPath o n) = match m.get? (o, n) with
      | some s => .ok (.file s.toDocument.toUTF8)
      | none => .error .notFound := by
  have hnode := h.document o n
  rw [filePlace, ← parts_directory] at hnode
  rw [documentPath, Disk.find_child (fileName_ne_empty n) (h.not_isBlocked o) (h.not_isFile o),
    hnode]
  rcases m.get? (o, n) with _ | s <;> rfl

lemma Holds.read_document (h : Holds a.root.parts d m) (o : Owner) (n : Segment) :
    d.read (a.documentPath o n) = match m.get? (o, n) with
      | some s => .ok s.toDocument
      | none => .error .notFound := by
  have hfind := h.find_document o n
  rcases hs : m.get? (o, n) with _ | s
  · rw [hs] at hfind
    exact Disk.read_missing hfind
  · rw [hs] at hfind
    exact Disk.read_file hfind (Disk.fromUTF8?_toUTF8 _)

lemma Holds.place_document (h : Holds a.root.parts d m) (o : Owner) (n : Segment)
    (hs : s.Sound) :
    ∃ e, d.place (a.directory o) (fileName n) s.toDocument = .ok e ∧
      Holds a.root.parts e (m.insert (o, n) s) := by
  have hnode := h.document o n
  rw [filePlace, ← parts_directory] at hnode
  have hplace : d.node? ((a.directory o).parts ++ [fileName n]) ≠ some .directory := by
    rw [hnode]
    rcases m.get? (o, n) with _ | s <;> simp
  refine ⟨_, Disk.place_eq_ok_iff.mpr ⟨h.not_isBlocked o, h.not_isFile o, hplace, rfl⟩, ?_⟩
  rw [parts_directory]
  exact h.insert o n hs

lemma Holds.remove_document (h : Holds a.root.parts d m) (o : Owner) (n : Segment) :
    ∃ e, d.remove (a.documentPath o n) = .ok (m.contains (o, n), e) ∧
      Holds a.root.parts e (m.erase (o, n)) := by
  rw [Disk.remove, h.find_document o n, parts_documentPath, OrderedMap.contains]
  rcases hs : m.get? (o, n) with _ | s
  · exact ⟨d, rfl, by rwa [OrderedMap.erase_of_get?_eq_none hs]⟩
  · exact ⟨_, rfl, h.erase o n⟩

/-! ### Listed documents -/

lemma stored?_eq_some_iff {e : Disk.Entry} {x : Stored} :
    stored? e = some x ↔ documentName? e.name = some x.name ∧ e.size? = some x.size := by
  rw [stored?]
  rcases documentName? e.name with _ | name
  · simp
  · rcases e.size? with _ | size
    · simp
    · obtain ⟨xname, xsize⟩ := x
      simp

lemma stored?_file (n : Segment) (content : ByteArray) :
    stored? (Disk.Node.entry (fileName n) (.file content)) = some ⟨n.text, content.size⟩ :=
  stored?_eq_some_iff.mpr ⟨documentName?_fileName n, rfl⟩

lemma nodup_stored (d : Disk) (parts : List String) :
    (((d.entries parts).filterMap stored?).map Stored.name).Nodup := by
  have hentries := d.nodup_entries parts
  rw [List.Nodup, List.pairwise_map] at hentries
  rw [List.Nodup, List.pairwise_map, List.pairwise_filterMap]
  refine hentries.imp fun hne x hx y hy hname => hne ?_
  have hx := documentName?_eq_some_iff.mp (stored?_eq_some_iff.mp hx).1
  have hy := documentName?_eq_some_iff.mp (stored?_eq_some_iff.mp hy).1
  rw [hx.2, hy.2, hname]

lemma Holds.mem_stored_iff (h : Holds root d m) (o : Owner) {x : Stored} :
    x ∈ (d.entries (root ++ [o.text])).filterMap stored? ↔
      ∃ n s, m.get? (o, n) = some s ∧ x = Shelf.stored (n, s) := by
  rw [List.mem_filterMap]
  constructor
  · rintro ⟨e, he, hx⟩
    obtain ⟨node, hget, heq⟩ := Disk.mem_entries_iff.mp he
    have hnode : d.node? (filePlace root o e.name) = some node := by
      rw [Disk.node?_of_two_le _ (two_le_filePlace root o _)]
      exact hget
    obtain ⟨n, hn⟩ : ∃ n, e.name = fileName n := by
      by_contra hno
      rw [h.nothingElse o e.name fun n hn => hno ⟨n, hn⟩] at hnode
      cases hnode
    rw [hn, h.document, Option.map_eq_some_iff] at hnode
    obtain ⟨s, hs, rfl⟩ := hnode
    rw [heq, hn, stored?_file, Option.some.injEq] at hx
    rw [← hx, String.toUTF8_eq_toByteArray, String.size_toByteArray]
    exact ⟨n, s, hs, rfl⟩
  · rintro ⟨n, s, hs, rfl⟩
    refine ⟨Disk.Node.entry (fileName n) (.file s.toDocument.toUTF8), ?_, ?_⟩
    · refine Disk.mem_entries_iff.mpr ⟨.file s.toDocument.toUTF8, ?_, rfl⟩
      have hnode := h.document o n
      rwa [hs, Disk.node?_of_two_le _ (two_le_filePlace root o _)] at hnode
    · rw [stored?_file, String.toUTF8_eq_toByteArray, String.size_toByteArray, Shelf.stored]

lemma Holds.list_directory (h : Holds a.root.parts d m) (o : Owner) :
    d.list (a.directory o) = .ok (d.entries (a.root.parts ++ [o.text])) ∨
      d.list (a.directory o) = .error .notFound ∧ ∀ n, m.get? (o, n) = none := by
  have hfree := h.ownerFree o
  rw [Disk.isFile] at hfree
  rw [Disk.list, directory, Disk.find_child (text_ne_empty o) h.clear h.rootFree, ← directory,
    parts_directory]
  rcases hnode : d.node? (a.root.parts ++ [o.text]) with _ | _ | _
  · refine .inr ⟨rfl, fun n => Option.eq_none_iff_forall_ne_some.mpr fun s hs => ?_⟩
    rw [h.owner o n s hs] at hnode
    cases hnode
  · rw [hnode] at hfree
    cases hfree
  · exact .inl rfl

end Archive

end QueryGate
