import QueryGate.Proofs.Archives
import QueryGate.Proofs.Errands
import QueryGate.Proofs.Results

/-!
What an errand changes. An errand that only looks, fails or tells of no change leaves all as it is;
one that tells of a change has put or taken away the document that it names, and what stands in the
places of all other documents stays.
-/

namespace QueryGate

/-! ### What is found elsewhere -/

namespace Disk

variable {d e : Disk} {p q : Path} {name text : String}

lemma find_congr (hfile : ∀ k : List String, k.length < p.parts.length → d.isFile k = e.isFile k)
    (hnode : d.node? p.parts = e.node? p.parts) : d.find p = e.find p := by
  rw [find, find, isBlocked_congr_of_shorter hfile, hnode]

lemma find_place_of_ne (h : d.place p name text = .ok e)
    (hlength : q.parts.length = p.parts.length + 1) (hne : q.parts ≠ p.parts ++ [name]) :
    e.find q = d.find q := by
  obtain ⟨-, -, -, rfl⟩ := place_eq_ok_iff.mp h
  refine find_congr (fun k hk => ?_) ?_
  · exact isFile_put_prepare (ne_child_of_length (by omega) name) d _
  · rw [node?_put_of_ne hne, node?_prepare_of_lt d (by omega)]

/-- What is taken away was a file. -/
lemma remove_eq_ok_true_iff :
    d.remove p = .ok (true, e) ↔
      ∃ content, d.find p = .ok (.file content) ∧ e = ⟨d.nodes.erase p.parts⟩ := by
  rw [remove]
  rcases d.find p with cause | content | _
  · cases cause <;> simp
  · simp [eq_comm]
  · simp

/-- Where there was nothing to take away nothing changes. -/
lemma eq_of_remove_eq_ok_false (h : d.remove p = .ok (false, e)) : e = d := by
  rw [remove] at h
  split at h <;> cases h
  rfl

lemma find_remove_of_ne (h : d.remove p = .ok (true, e))
    (hlength : q.parts.length = p.parts.length) (hne : q.parts ≠ p.parts) :
    e.find q = d.find q := by
  obtain ⟨content, -, rfl⟩ := remove_eq_ok_true_iff.mp h
  refine find_congr (fun k hk => ?_) (node?_erase_of_ne hne d)
  refine isFile_congr (node?_erase_of_ne ?_ d)
  rintro rfl
  omega

/-- What was taken away is not found any more. -/
lemma read_remove (hp : 2 ≤ p.parts.length) (h : d.remove p = .ok (true, e)) :
    e.read p = .error .notFound := by
  obtain ⟨content, hfind, rfl⟩ := remove_eq_ok_true_iff.mp h
  have hblocked : (⟨d.nodes.erase p.parts⟩ : Disk).isBlocked p.parts = d.isBlocked p.parts := by
    refine isBlocked_congr_of_shorter fun k hk => isFile_congr (node?_erase_of_ne ?_ d)
    rintro rfl
    exact absurd hk (lt_irrefl _)
  refine read_missing ?_
  rw [find] at hfind ⊢
  rw [hblocked]
  split_ifs at hfind ⊢
  rw [node?_of_two_le _ hp, OrderedMap.get?_erase, if_pos rfl]

end Disk

namespace Archive

variable {a : Archive} {o : Owner} {v w : World}

/-! ### How errands end -/

/-- Whether an errand asks for nothing but a look. -/
def Errand.onlyLooks : Errand → Bool
  | .get _ | .document _ | .diff .. | .list => true
  | _ => false

/-- The name of the document that an errand is about. -/
def Errand.name? : Errand → Option String
  | .save name .. | .update name .. | .delete name | .get name | .document name
  | .diff name _ => some name
  | .list => none

/-- The tables that an errand would store. -/
def Errand.tables? : Errand → Option Catalog
  | .save _ _ tables _ | .update _ tables _ => some tables
  | _ => none

/-- Whether an answer tells of a change. -/
def Answer.tellsChange : Answer → Bool
  | .saved _ => true
  | .updated u => u.updated
  | .deleted there => there
  | _ => false

/-- Whether an errand ended with a change, to judge by its answer. -/
def tellsChange : Except Fault Answer → Bool
  | .ok answer => answer.tellsChange
  | .error _ => false

/-- An answer that tells of a stored snapshot. -/
inductive Answer.Tells (s : Snapshot) : Answer → Prop
  | saved : Tells s (.saved s.metadata)
  | updated : Tells s (.updated (replaced s))

lemma Answer.Tells.tellsChange {s : Snapshot} {answer : Answer} (h : answer.Tells s) :
    answer.tellsChange = true := by
  cases h <;> rfl

/-- How an errand ends: without a change, with a snapshot put in place or with one taken away. -/
inductive Ends (a : Archive) (o : Owner) (w : World) (e : Errand) :
    Except Fault Answer → World → Prop
  | idle {r : Except Fault Answer} (h : Archive.tellsChange r = false) : Ends a o w e r w
  | stored {n : Segment} {s : Snapshot} {d : Disk} {answer : Answer} (hname : e.name? = some n.text)
      (htables : e.tables?.map Catalog.normalize = some s.tables)
      (hplace : w.disk.place (a.directory o) (fileName n) s.toDocument = .ok d)
      (hanswer : answer.Tells s) : Ends a o w e (.ok answer) { w with disk := d }
  | removed {n : Segment} {d : Disk} (hname : e.name? = some n.text)
      (hremove : w.disk.remove (a.documentPath o n) = .ok (true, d)) :
      Ends a o w e (.ok (.deleted true)) { w with disk := d }

/-! ### Requests that only look -/

lemma asks_perform_of_onlyLooks {e : Errand} (h : e.onlyLooks = true) :
    (e.perform a o).Asks (·.looks = true) := by
  have hread (n : Segment) : (Request.read (a.documentPath o n)).looks = true := rfl
  cases e with
  | get name => exact (asks_get a o hread name).map _
  | document name => exact (asks_document a o hread name).map _
  | diff name tables => exact (asks_diff a o hread name tables).map _
  | list => exact (asks_list (P := (·.looks = true)) a o hread rfl).map _
  | _ => cases h

/-! ### Requests that change something -/

lemma run_writeDocument_cases (a : Archive) (o : Owner) (w : World) (n : Segment) (text : String) :
    (∃ f, Action.run w (a.writeDocument o n text) = (.error f, w)) ∨
      ∃ d, w.disk.place (a.directory o) (fileName n) text = .ok d ∧
        Action.run w (a.writeDocument o n text) = (.ok (), { w with disk := d }) := by
  rw [writeDocument, Action.run_ask_bind, World.answer]
  rcases w.disk.place (a.directory o) (fileName n) text with ⟨p, cause⟩ | d
  · exact .inl ⟨_, rfl⟩
  · exact .inr ⟨d, rfl, rfl⟩

lemma run_removeDocument_cases (a : Archive) (o : Owner) (w : World) (n : Segment) :
    (∃ r, Action.run w (a.removeDocument o n) = (r, w) ∧ r ≠ .ok true) ∨
      ∃ d, w.disk.remove (a.documentPath o n) = .ok (true, d) ∧
        Action.run w (a.removeDocument o n) = (.ok true, { w with disk := d }) := by
  rw [removeDocument, Action.run_ask_bind, World.answer]
  rcases hremove : w.disk.remove (a.documentPath o n) with cause | ⟨_ | _, d⟩
  · exact .inl ⟨_, rfl, by simp⟩
  · obtain rfl := Disk.eq_of_remove_eq_ok_false hremove
    exact .inl ⟨.ok false, rfl, by simp⟩
  · exact .inr ⟨d, rfl, rfl⟩

lemma ends_save (a : Archive) (o : Owner) (w : World) (name : String) (dialect? : Option String)
    (tables : Catalog) (now : Timestamp) :
    let e : Errand := .save name dialect? tables now
    Ends a o w e (Action.run w (e.perform a o)).1 (Action.run w (e.perform a o)).2 := by
  intro e
  simp only [e, Errand.perform, Action.run_map, save]
  rcases hname : nameOfText name with f | n
  · rw [Action.run_bind_error (Action.run_liftExcept w _)]
    exact .idle rfl
  · rw [Action.run_bind_ok (Action.run_liftExcept w _)]
    rcases run_writeDocument_cases a o w n (Snapshot.take name dialect? tables now).toDocument with
      ⟨f, hrun⟩ | ⟨d, hplace, hrun⟩
    · rw [Action.run_bind_error hrun]
      exact .idle rfl
    · rw [Action.run_bind_ok hrun]
      exact .stored (congrArg some (text_of_nameOfText hname).symm) rfl hplace .saved

lemma ends_update (a : Archive) (o : Owner) (w : World) (name : String) (tables : Catalog)
    (now : Timestamp) :
    let e : Errand := .update name tables now
    Ends a o w e (Action.run w (e.perform a o)).1 (Action.run w (e.perform a o)).2 := by
  intro e
  have hget := Action.world_run_of_looks
    (asks_get (P := (·.looks = true)) a o (fun _ => rfl) name) w
  simp only [e, Errand.perform, Action.run_map, update]
  rcases hs : (Action.run w (a.get o name)).1 with f | s
  · rw [Action.run_bind_error (Prod.ext hs hget)]
    exact .idle rfl
  rw [Action.run_bind_ok (Prod.ext hs hget)]
  by_cases hdiffers : s.differsFrom tables = true
  · rw [if_pos hdiffers, Snapshot.update, if_pos hdiffers]
    rcases hname : nameOfText name with f | n
    · rw [Action.run_bind_error (Action.run_liftExcept w _)]
      exact .idle rfl
    rw [Action.run_bind_ok (Action.run_liftExcept w _)]
    rcases run_writeDocument_cases a o w n
        (Snapshot.take s.name s.dialect? tables now).toDocument with ⟨f, hrun⟩ | ⟨d, hplace, hrun⟩
    · rw [Action.run_bind_error hrun]
      exact .idle rfl
    · rw [Action.run_bind_ok hrun]
      exact .stored (congrArg some (text_of_nameOfText hname).symm) rfl hplace .updated
  · rw [if_neg hdiffers]
    exact .idle rfl

lemma ends_delete (a : Archive) (o : Owner) (w : World) (name : String) :
    let e : Errand := .delete name
    Ends a o w e (Action.run w (e.perform a o)).1 (Action.run w (e.perform a o)).2 := by
  intro e
  simp only [e, Errand.perform, Action.run_map, delete]
  rcases hname : nameOfText name with f | n
  · rw [Action.run_bind_error (Action.run_liftExcept w _)]
    exact .idle rfl
  rw [Action.run_bind_ok (Action.run_liftExcept w _)]
  rcases run_removeDocument_cases a o w n with ⟨r, hrun, hr⟩ | ⟨d, hremove, hrun⟩
  · rw [hrun]
    rcases r with f | _ | _
    · exact .idle rfl
    · exact .idle rfl
    · exact absurd rfl hr
  · rw [hrun]
    exact .removed (congrArg some (text_of_nameOfText hname).symm) hremove

/-- An errand that only looks tells of no change. -/
lemma tellsChange_of_onlyLooks {e : Errand} (h : e.onlyLooks = true) (w : World) :
    tellsChange (Action.run w (e.perform a o)).1 = false := by
  have hmap {α : Type} {f : α → Answer} (hf : ∀ x, (f x).tellsChange = false) (x : Action α) :
      tellsChange (Action.run w (f <$> x)).1 = false := by
    rw [Action.run_map]
    rcases (Action.run w x).1 with e | y
    · rfl
    · exact hf y
  cases e with
  | get name => exact hmap (fun _ => rfl) _
  | document name => exact hmap (fun _ => rfl) _
  | diff name tables => exact hmap (fun _ => rfl) _
  | list => exact hmap (fun _ => rfl) _
  | _ => cases h

/-- How any errand ends. -/
lemma ends_perform (a : Archive) (o : Owner) (w : World) (e : Errand) :
    Ends a o w e (Action.run w (e.perform a o)).1 (Action.run w (e.perform a o)).2 := by
  have hlooks (h : e.onlyLooks = true) :
      Ends a o w e (Action.run w (e.perform a o)).1 (Action.run w (e.perform a o)).2 := by
    rw [Action.world_run_of_looks (asks_perform_of_onlyLooks h) w]
    exact .idle (tellsChange_of_onlyLooks h w)
  cases e with
  | save name dialect? tables now => exact ends_save a o w name dialect? tables now
  | update name tables now => exact ends_update a o w name tables now
  | delete name => exact ends_delete a o w name
  | _ => exact hlooks rfl

/-! ### One document at most -/

/-- What stands in the places of documents is the same in two worlds, one document apart. -/
def SameApartFrom (a : Archive) (o : Owner) (n : Segment) (v w : World) : Prop :=
  ∀ (p : Owner) (m : Segment), (p, m) ≠ (o, n) →
    v.disk.find (a.documentPath p m) = w.disk.find (a.documentPath p m)

/-- What is found in the place of a document after a change was told of: the snapshot with the new
tables and with the metadata that were told, or nothing. -/
def Errand.Leaves (e : Errand) (answer : Answer) (found : Except FileCause String) : Prop :=
  match answer with
  | .saved m | .updated ⟨_, _, m⟩ => ∃ s : Snapshot, s.metadata = m ∧
      e.tables?.map Catalog.normalize = some s.tables ∧ found = .ok s.toDocument
  | .deleted _ => found = .error .notFound
  | _ => False

lemma parts_documentPath_ne {p : Owner} {m n : Segment} (h : (p, m) ≠ (o, n)) :
    (a.documentPath p m).parts ≠ (a.documentPath o n).parts := by
  rw [parts_documentPath, parts_documentPath]
  intro he
  obtain ⟨hp, hm⟩ := filePlace_inj he
  exact h (Prod.ext hp (fileName_injective hm))

lemma sameApartFrom_of_place {n : Segment} {text : String} {d : Disk}
    (h : w.disk.place (a.directory o) (fileName n) text = .ok d) :
    SameApartFrom a o n { w with disk := d } w := by
  intro p m hne
  refine Disk.find_place_of_ne h ?_ ?_
  · rw [parts_documentPath, length_filePlace, parts_directory, List.length_append]
    rfl
  · rw [← Path.parts_child]
    exact parts_documentPath_ne hne

lemma sameApartFrom_of_remove {n : Segment} {d : Disk}
    (h : w.disk.remove (a.documentPath o n) = .ok (true, d)) :
    SameApartFrom a o n { w with disk := d } w := by
  intro p m hne
  refine Disk.find_remove_of_ne h ?_ (parts_documentPath_ne hne)
  rw [parts_documentPath, parts_documentPath, length_filePlace, length_filePlace]

/-- **An errand changes one document at most.** On any disk, nothing changes at all when an errand
only looks, when it fails, and when its answer tells of no change. When the answer tells of one, the
document that the errand names is what the answer says, and in the places of all other documents of
all owners stands what stood there. -/
theorem run_perform_local (a : Archive) (o : Owner) (w : World) (e : Errand) :
    let (r, v) := Action.run w (e.perform a o)
    (e.onlyLooks = true ∨ tellsChange r = false → v = w) ∧
      ∀ answer, r = .ok answer → answer.tellsChange = true →
        ∃ n : Segment, e.name? = some n.text ∧ SameApartFrom a o n v w ∧
          e.Leaves answer (v.disk.read (a.documentPath o n)) := by
  have hends := ends_perform a o w e
  have hquiet (h : e.onlyLooks = true) := tellsChange_of_onlyLooks (a := a) (o := o) h w
  generalize Action.run w (e.perform a o) = ending at hends hquiet
  obtain ⟨r, v⟩ := ending
  cases hends with
  | idle hidle =>
    refine ⟨fun _ => rfl, fun answer hr hchange => ?_⟩
    rw [hr, tellsChange, hchange] at hidle
    cases hidle
  | @stored n s d answer hname htables hplace hanswer =>
    have hdirectory : (a.directory o).parts ≠ [] := by simp [parts_directory]
    have hread := Disk.read_place hdirectory (fileName_ne_empty n) hplace
    refine ⟨fun h => ?_, fun answer' hr _ => ?_⟩
    · have hno := h.elim hquiet id
      rw [tellsChange, hanswer.tellsChange] at hno
      cases hno
    · cases hr
      refine ⟨n, hname, sameApartFrom_of_place hplace, ?_⟩
      cases hanswer with
      | saved => exact ⟨s, rfl, htables, hread⟩
      | updated => exact ⟨s, rfl, htables, hread⟩
  | @removed n d hname hremove =>
    have hplace : 2 ≤ (a.documentPath o n).parts.length := by
      rw [parts_documentPath]
      exact two_le_filePlace ..
    refine ⟨fun h => ?_, fun answer hr _ => ?_⟩
    · cases h.elim hquiet id
    · cases hr
      exact ⟨n, hname, sameApartFrom_of_remove hremove, Disk.read_remove hplace hremove⟩

/-- Surroundings in which a directory has the place of a document, beside a document of a byte that
is no text. -/
def cluttered : World :=
  { World.bare with disk := ⟨.ofList [(["/", "data", "u1"], .directory),
      (["/", "data", "u1", "crm.json"], .directory),
      (["/", "data", "u1", "old.json"], .file ⟨#[0xff]⟩)]⟩ }

/-- Nothing can be saved in the place of the directory, and nothing changes. The document beside it
can be taken away, and the directory stays. -/
theorem run_perform_cluttered :
    let save : Errand := .save "crm" none (oneColumn "id") .epoch
    let delete : Errand := .delete "old"
    tellsChange (Action.run cluttered (save.perform depot keeper)).1 = false ∧
      (Action.run cluttered (save.perform depot keeper)).2 = cluttered ∧
      ∃ v, Action.run cluttered (delete.perform depot keeper) = (.ok (.deleted true), v) ∧
        v.disk.find (depot.documentPath keeper label) =
          cluttered.disk.find (depot.documentPath keeper label) := by
  intro save delete
  have hsave : tellsChange (Action.run cluttered (save.perform depot keeper)).1 = false := by
    decide +kernel
  have hdelete : (Action.run cluttered (delete.perform depot keeper)).1 = .ok (.deleted true) :=
    eq_ok_of_toOption (by decide +kernel)
  refine ⟨hsave, (run_perform_local depot keeper cluttered save).1 (.inr hsave), _,
    Prod.ext hdelete rfl, ?_⟩
  obtain ⟨n, hname, hsame, -⟩ :=
    (run_perform_local depot keeper cluttered delete).2 _ hdelete rfl
  refine hsame keeper label fun h => ?_
  obtain rfl : label = n := congrArg Prod.snd h
  revert hname
  decide

end Archive

end QueryGate
