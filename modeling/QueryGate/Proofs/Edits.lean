import QueryGate.Proofs.Changes
import QueryGate.Proofs.Updates

/-!
Edits of one document. Where the place of the document is free for files, what an edit answers and
what it leaves there is told by the text that stands there.
-/

namespace QueryGate

/-! ### Places for texts -/

namespace Disk

variable {d e : Disk} {p : Path} {name : String} {text? : Option String}

/-- A place that is free for files, with the text that stands there. -/
structure Offers (d : Disk) (p : Path) (name : String) (text? : Option String) : Prop where
  clear : d.isBlocked p.parts = false
  notFile : d.isFile p.parts = false
  node : d.node? (p.parts ++ [name]) = text?.map fun text => .file text.toUTF8

/-- Where a text is read there can be another. -/
lemma offers_of_read {text : String} (h : d.read (p.child name) = .ok text) :
    d.Offers p name (some text) := by
  obtain ⟨content, hfind⟩ := exists_file_of_read h
  have hcontent : content = text.toUTF8 := by
    rw [read, hfind] at h
    simp only [bind, Except.bind, String.fromUTF8?] at h
    split_ifs at h with hvalid
    cases h
    rfl
  rw [find, Path.parts_child, isBlocked_snoc] at hfind
  split_ifs at hfind with hclear htext
  rw [Bool.not_eq_true, Bool.or_eq_false_iff] at hclear
  refine ⟨hclear.1, hclear.2, ?_⟩
  rcases hnode : d.node? (p.parts ++ [name]) with _ | n
  · rw [hnode] at hfind
    cases hfind
  · rw [hnode] at hfind
    cases hfind
    rw [hcontent]
    rfl

/-- What changes in the place alone keeps it free. -/
lemma Offers.of_same (h : d.Offers p name text?)
    (hfile : ∀ k, k ≠ p.parts ++ [name] → e.isFile k = d.isFile k) {new? : Option String}
    (hnode : e.node? (p.parts ++ [name]) = new?.map fun text => .file text.toUTF8) :
    e.Offers p name new? := by
  have hshort {k : List String} (hk : k.length ≤ p.parts.length) : e.isFile k = d.isFile k :=
    hfile k (ne_child_of_length hk name)
  refine ⟨?_, (hshort (Nat.le_refl _)).trans h.notFile, hnode⟩
  exact (isBlocked_congr_of_shorter fun k hk => hshort (Nat.le_of_lt hk)).trans h.clear

section Text

variable (hname : name ≠ "")

include hname

lemma Offers.find (h : d.Offers p name text?) : d.find (p.child name) = match text? with
    | some text => .ok (.file text.toUTF8)
    | none => .error .notFound := by
  rw [find_child hname h.clear h.notFile, h.node]
  cases text? <;> rfl

lemma Offers.read (h : d.Offers p name text?) : d.read (p.child name) = match text? with
    | some text => .ok text
    | none => .error .notFound := by
  have hfind := h.find hname
  rcases text? with _ | text
  · exact read_missing hfind
  · exact read_file hfind (fromUTF8?_toUTF8 text)

lemma Offers.remove (hp : p.parts ≠ []) (h : d.Offers p name text?) :
    ∃ e, d.remove (p.child name) = .ok (text?.isSome, e) ∧ e.Offers p name none := by
  have hfind := h.find hname
  rcases text? with _ | text
  · refine ⟨d, ?_, h⟩
    rw [Disk.remove, hfind]
    rfl
  · refine ⟨_, remove_eq_ok_true_iff.mpr ⟨_, hfind, rfl⟩, h.of_same (fun k hk => ?_) ?_⟩
    · rw [Path.parts_child]
      exact isFile_congr (node?_erase_of_ne hk d)
    · rw [Path.parts_child, node?_of_two_le _ (two_le_child hp name), OrderedMap.get?_erase,
        if_pos rfl]
      rfl

end Text

lemma Offers.place (hp : p.parts ≠ []) (h : d.Offers p name text?) (text : String) :
    ∃ e, d.place p name text = .ok e ∧ e.Offers p name (some text) := by
  refine ⟨_, place_eq_ok_iff.mpr ⟨h.clear, h.notFile, ?_, rfl⟩, h.of_same (fun k hk => ?_) ?_⟩
  · rw [h.node]
    cases text? <;> simp
  · exact isFile_put_prepare hk d _
  · rw [node?_put _ (two_le_child hp name), if_pos rfl]
    rfl

end Disk

namespace Archive

variable {a : Archive} {o : Owner} {n : Segment} {text? : Option String} {w : World}

/-! ### Edits -/

/-- What is done to one document of an owner. -/
inductive Edit
  | save (dialect? : Option String) (tables : Catalog) (now : Timestamp)
  | update (tables : Catalog) (now : Timestamp)
  | delete

def Edit.errand (name : String) : Edit → Errand
  | .save dialect? tables now => .save name dialect? tables now
  | .update tables now => .update name tables now
  | .delete => .delete name

def edit (a : Archive) (o : Owner) (name : String) (e : Edit) : Action Answer :=
  (e.errand name).perform a o

/-- What is read of a document where a text stands. -/
def documentIn (name : String) : Option String → Except Fault String
  | some text => .ok text
  | none => .error (.snapshotMissing name)

/-- The snapshot in a text that stands in the place of a document. -/
def snapshotIn (name : String) : Option String → Except Fault Snapshot
  | some text => Snapshot.ofDocument text
  | none => .error (.snapshotMissing name)

/-- What an edit answers where a text stands, and what stands there afterwards. -/
def Edit.revise (name : String) (text? : Option String) :
    Edit → Except Fault Answer × Option String
  | .save dialect? tables now =>
    let s := Snapshot.take name dialect? tables now
    (.ok (.saved s.metadata), some s.toDocument)
  | .update tables now =>
    match snapshotIn name text? with
    | .error fault => (.error fault, text?)
    | .ok s =>
      if s.differsFrom tables then
        let t := Snapshot.take s.name s.dialect? tables now
        (.ok (.updated (replaced t)), some t.toDocument)
      else (.ok (.updated (unchanged s)), text?)
  | .delete => (.ok (.deleted text?.isSome), none)

abbrev Offers (a : Archive) (o : Owner) (n : Segment) (text? : Option String) (w : World) : Prop :=
  w.disk.Offers (a.directory o) (fileName n) text?

lemma directory_ne_nil (a : Archive) (o : Owner) : (a.directory o).parts ≠ [] := by
  simp [parts_directory]

namespace Offers

variable (h : Offers a o n text? w)

include h

lemma run_readDocument : Action.run w (a.readDocument o n) = (.ok text?, w) := by
  have hread := h.read (fileName_ne_empty n)
  rw [readDocument, Action.run_ask_bind, World.answer, documentPath, hread]
  rcases text? with _ | text <;> rfl

lemma run_writeDocument (text : String) :
    ∃ v, Action.run w (a.writeDocument o n text) = (.ok (), v) ∧ Offers a o n (some text) v := by
  obtain ⟨d, hplace, hd⟩ := h.place (directory_ne_nil a o) text
  refine ⟨{ w with disk := d }, ?_, hd⟩
  rw [writeDocument, Action.run_ask_bind, World.answer, hplace]
  rfl

lemma run_removeDocument :
    ∃ v, Action.run w (a.removeDocument o n) = (.ok text?.isSome, v) ∧ Offers a o n none v := by
  obtain ⟨d, hremove, hd⟩ := h.remove (fileName_ne_empty n) (directory_ne_nil a o)
  refine ⟨{ w with disk := d }, ?_, hd⟩
  rw [removeDocument, Action.run_ask_bind, World.answer, documentPath, hremove]
  rfl

lemma run_document : Action.run w (a.document o n.text) = (documentIn n.text text?, w) := by
  rw [document, nameOfText_text, Action.run_bind_ok (Action.run_liftExcept w _),
    Action.run_bind_ok h.run_readDocument]
  rcases text? with _ | text <;> rfl

lemma run_get : Action.run w (a.get o n.text) = (snapshotIn n.text text?, w) := by
  rcases text? with _ | text
  · exact Action.run_bind_error h.run_document _
  · rw [get, Action.run_bind_ok h.run_document, Action.run_liftExcept, snapshotIn]

/-- What an edit does where the place of its document is free. -/
lemma run_edit (e : Edit) :
    ∃ v, Action.run w (a.edit o n.text e) = ((e.revise n.text text?).1, v) ∧
      Offers a o n (e.revise n.text text?).2 v := by
  cases e with
  | save dialect? tables now =>
    obtain ⟨v, hwrite, hv⟩ :=
      h.run_writeDocument (Snapshot.take n.text dialect? tables now).toDocument
    refine ⟨v, ?_, hv⟩
    rw [edit, Edit.errand, Errand.perform, Action.run_map, save, nameOfText_text,
      Action.run_bind_ok (Action.run_liftExcept w _), Action.run_bind_ok hwrite]
    rfl
  | update tables now =>
    have hget := h.run_get
    rw [edit, Edit.errand, Errand.perform, Action.run_map, Edit.revise]
    rcases hs : snapshotIn n.text text? with fault | s
    · rw [hs] at hget
      exact ⟨w, by rw [update, Action.run_bind_error hget]; rfl, h⟩
    rw [hs] at hget
    by_cases hdiffers : s.differsFrom tables = true
    · obtain ⟨v, hwrite, hv⟩ :=
        h.run_writeDocument (Snapshot.take s.name s.dialect? tables now).toDocument
      simp only [if_pos hdiffers]
      exact ⟨v, by rw [run_update_of_differs hget hdiffers hwrite]; rfl, hv⟩
    · simp only [if_neg hdiffers]
      exact ⟨w, by rw [run_update_of_same hget (Bool.not_eq_true _ ▸ hdiffers)]; rfl, h⟩
  | delete =>
    obtain ⟨v, hremove, hv⟩ := h.run_removeDocument
    refine ⟨v, ?_, hv⟩
    rw [edit, Edit.errand, Errand.perform, Action.run_map, delete, nameOfText_text,
      Action.run_bind_ok (Action.run_liftExcept w _), hremove]
    rfl

end Offers

end Archive

end QueryGate
