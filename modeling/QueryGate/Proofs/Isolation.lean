import QueryGate.Proofs.Archives
import QueryGate.Proofs.Errands
import QueryGate.Proofs.Places
import QueryGate.Proofs.Results
import QueryGate.Proofs.Views

/-!
Owners neither see nor touch each other. What an owner sees of a disk is the view from the owner's
directory: the owner's requests depend on it alone, and those of others leave it as it is. So an
owner has from a history what the owner's part of it brings.
-/

namespace QueryGate.Archive

variable {a : Archive} {o p : Owner} {v w : World}

/-- What an owner sees of a world. -/
def seen (a : Archive) (o : Owner) (w : World) : Disk.View := w.disk.view (a.directory o).parts

/-! ### Requests -/

lemma parts_directory_ne_nil (a : Archive) (o : Owner) : (a.directory o).parts ≠ [] := by
  rw [parts_directory]
  simp

lemma parts_directory_ne (h : p ≠ o) : (a.directory p).parts ≠ (a.directory o).parts := by
  rw [parts_directory, parts_directory]
  exact fun he => h (Segment.text_injective (List.singleton_inj.mp (List.append_cancel_left he)))

lemma length_parts_directory (a : Archive) (o p : Owner) :
    (a.directory p).parts.length = (a.directory o).parts.length := by
  rw [parts_directory, parts_directory, List.length_append, List.length_append]
  rfl

/-- A request of the owner depends on what the owner sees, and so does what is seen after it. -/
lemma Concerns.answer_congr {r : Request} (hr : Concerns a o r) (h : seen a o v = seen a o w) :
    (v.answer r).1 = (w.answer r).1 ∧ seen a o (v.answer r).2 = seen a o (w.answer r).2 := by
  have hdirectory := parts_directory_ne_nil a o
  cases hr with
  | read n => exact ⟨Disk.read_child_of_view hdirectory h _, h⟩
  | list => exact ⟨Disk.list_of_view h, h⟩
  | place n text =>
    rw [World.answer, World.answer]
    rcases cases_of_map_eq (Disk.place_of_view hdirectory h (fileName n) text) with
      ⟨e, hv, hw⟩ | ⟨d, d', hv, hw, hviews⟩
    · rw [hv, hw]
      exact ⟨rfl, h⟩
    · rw [hv, hw]
      exact ⟨rfl, hviews⟩
  | remove n =>
    rw [World.answer, World.answer, documentPath]
    rcases cases_of_map_eq (Disk.remove_of_view hdirectory h (fileName n)) with
      ⟨e, hv, hw⟩ | ⟨⟨there, d⟩, ⟨there', d'⟩, hv, hw, hafter⟩
    · rw [hv, hw]
      exact ⟨rfl, h⟩
    · rw [hv, hw]
      obtain ⟨hthere, hviews⟩ := Prod.mk.inj hafter
      exact ⟨congrArg Except.ok hthere, hviews⟩

/-- A request of one owner leaves what another one sees. -/
lemma Concerns.seen_answer {r : Request} (hr : Concerns a p r) (hne : p ≠ o) (w : World) :
    seen a o (w.answer r).2 = seen a o w := by
  have hlength := length_parts_directory a o p
  have hparts := parts_directory_ne (a := a) hne
  cases hr with
  | read n => rfl
  | list => rfl
  | place n text =>
    rw [World.answer]
    split
    · next d hplace => exact Disk.view_place_of_ne hlength hparts hplace
    · rfl
  | remove n =>
    rw [World.answer]
    split
    · next there d hremove => exact Disk.view_remove_of_ne hlength hparts hremove
    · rfl

/-! ### Histories -/

lemma run_perform_congr (h : seen a o v = seen a o w) (e : Errand) :
    (Action.run v (e.perform a o)).1 = (Action.run w (e.perform a o)).1 ∧
      seen a o (Action.run v (e.perform a o)).2 = seen a o (Action.run w (e.perform a o)).2 :=
  Session.Asks.run_congr (R := fun v w => seen a o v = seen a o w)
    (fun _ _ _ hr h => hr.answer_congr h) (asks_perform a o e) h

lemma seen_run_perform (hne : p ≠ o) (e : Errand) (w : World) :
    seen a o (Action.run w (e.perform a p)).2 = seen a o w :=
  Session.Asks.run_keeps (I := fun v => seen a o v = seen a o w)
    (fun _ v hr h => (hr.seen_answer hne v).trans h) (asks_perform a p e) rfl

/-- What others have done may be left out of a history: the owner has the same answers and sees the
same in the end. -/
lemma attend_ownPart (h : seen a o v = seen a o w) (es : List (Owner × Errand)) :
    ownPart o (a.attend v es).1 = ownPart o (a.attend w (ownPart o es)).1 ∧
      seen a o (a.attend v es).2 = seen a o (a.attend w (ownPart o es)).2 := by
  induction es generalizing v w with
  | nil => exact ⟨rfl, h⟩
  | cons e es ih =>
    obtain ⟨p, e⟩ := e
    by_cases hp : p = o
    · -- both histories go on with the owner's errand
      subst hp
      obtain ⟨hanswer, hseen⟩ := run_perform_congr h e
      obtain ⟨hanswers, hend⟩ := ih hseen
      rw [ownPart_cons_self]
      simp only [attend, ownPart_cons_self, hanswer, hanswers]
      exact ⟨trivial, hend⟩
    · -- only one of them does, and the owner sees nothing of it
      obtain ⟨hanswers, hend⟩ := ih ((seen_run_perform hp e v).trans h)
      rw [ownPart_cons_of_ne hp]
      simp only [attend, ownPart_cons_of_ne hp]
      exact ⟨hanswers, hend⟩

/-- Two histories that are the same for an owner. -/
lemma attend_congr (h : seen a o v = seen a o w) {es fs : List (Owner × Errand)}
    (hsame : ownPart o es = ownPart o fs) :
    ownPart o (a.attend v es).1 = ownPart o (a.attend w fs).1 ∧
      seen a o (a.attend v es).2 = seen a o (a.attend w fs).2 := by
  obtain ⟨hanswers, hseen⟩ := attend_ownPart h es
  obtain ⟨hanswers', hseen'⟩ := attend_ownPart (rfl : seen a o w = seen a o w) fs
  rw [hsame] at hanswers hseen
  exact ⟨hanswers.trans hanswers'.symm, hseen.trans hseen'.symm⟩

/-- Below a vacant root there is nothing to see. -/
lemma view_of_vacant {d : Disk} {root : List String} (h : d.Vacant root) (name : String) :
    d.view (root ++ [name]) = ⟨false, Disk.empty.node? (root ++ [name]), .empty⟩ := by
  have hblocked : d.isBlocked (root ++ [name]) = false := by
    rw [Disk.isBlocked_snoc, h.clear, Disk.isFile_of_get?_eq_none (by simpa using h.nothing [])]
    rfl
  have hnode : d.node? (root ++ [name]) = Disk.empty.node? (root ++ [name]) := by
    rw [Disk.node?, h.nothing]
    rfl
  have hbelow : d.below (root ++ [name]) = .empty := by
    refine OrderedMap.eq_empty_of_get? fun file => ?_
    rw [Disk.get?_below, List.append_assoc, h.nothing]
  rw [Disk.view, hblocked, hnode, hbelow]

lemma seen_of_vacant (hv : v.disk.Vacant a.root.parts) (hw : w.disk.Vacant a.root.parts) :
    seen a o v = seen a o w := by
  rw [seen, seen, parts_directory, view_of_vacant hv, view_of_vacant hw]

/-- **Owners are isolated.** From a vacant root, two histories of errands in which an owner has done
the same bring the owner the same answers, and leave the same documents in the owner's directory.
The documents of owners never meet: the text of a document's path is that of the root with two
further parts, the owner and the file, and no other owner or name has it. -/
theorem attend_isolated (hv : v.disk.Vacant a.root.parts) (hw : w.disk.Vacant a.root.parts)
    {es fs : List (Owner × Errand)} (hsame : ownPart o es = ownPart o fs) :
    ownPart o (a.attend v es).1 = ownPart o (a.attend w fs).1 ∧
      (∀ n, (a.attend v es).2.disk.read (a.documentPath o n) =
        (a.attend w fs).2.disk.read (a.documentPath o n)) ∧
      (a.attend v es).2.disk.list (a.directory o) = (a.attend w fs).2.disk.list (a.directory o) ∧
      (∀ p n, (Path.ofText (a.documentPath p n).toText).parts =
        (Path.ofText a.root.toText).parts ++ [p.text, fileName n]) ∧
      ∀ p n q m, (a.documentPath p n).toText = (a.documentPath q m).toText → p = q ∧ n = m := by
  obtain ⟨hanswers, hseen⟩ := attend_congr (seen_of_vacant (o := o) hv hw) hsame
  refine ⟨hanswers, fun n => ?_, Disk.list_of_view hseen, parts_ofText_documentPath a,
    fun p n q m h => ?_⟩
  · exact Disk.read_child_of_view (parts_directory_ne_nil a o) hseen (fileName n)
  · have hkeys : (p, n) = (q, m) := documentPath_injective a h
    exact Prod.mk.inj hkeys

/-- Another owner, who uses the same names. -/
def rival : Owner := ⟨"u2", by decide +kernel⟩

/-- The rival's snapshot comes and goes, and the keeper's stays; a path is no name for either. -/
theorem attend_beside_rival :
    let es : List (Owner × Errand) :=
      [(keeper, .save "crm" none (oneColumn "id") .epoch),
        (rival, .save "crm" none (oneColumn "key") .epoch),
        (rival, .save "../u1/crm" none .empty .epoch), (rival, .delete "crm"),
        (keeper, .delete "u1/crm"), (keeper, .get "crm")]
    let fs : List (Owner × Errand) :=
      [(keeper, .save "crm" none (oneColumn "id") .epoch), (keeper, .delete "u1/crm"),
        (keeper, .get "crm")]
    ownPart keeper es = fs ∧
      ownPart keeper (depot.attend .bare es).1 = ownPart keeper (depot.attend .bare fs).1 ∧
      (depot.attend .bare es).2.disk.read (depot.documentPath keeper label) =
        (depot.attend .bare fs).2.disk.read (depot.documentPath keeper label) := by
  intro es fs
  have hown : ownPart keeper es = fs := by
    simp only [es, fs, ownPart_cons_self,
      ownPart_cons_of_ne (show rival ≠ keeper by decide +kernel)]
    rfl
  have hsame : ownPart keeper es = ownPart keeper fs := by
    rw [hown]
    simp only [fs, ownPart_cons_self]
    rfl
  have hvacant : World.bare.disk.Vacant depot.root.parts := vacant_empty _
  obtain ⟨hanswers, hdocuments, -⟩ := attend_isolated hvacant hvacant hsame
  exact ⟨hown, hanswers, hdocuments label⟩

end QueryGate.Archive
