import QueryGate.Proofs.Edits
import QueryGate.Proofs.Interleavings
import QueryGate.Proofs.Survival

/-!
Two edits of one document at once. They come to what they come to in turn, unless an update stores
after the other edit what it has made of the document before it.
-/

namespace QueryGate.Archive

variable {a : Archive} {o : Owner} {n : Segment} {text? : Option String} {v w : World}
  {name : String} {e f : Edit}

/-! ### Outcomes -/

/-- What two edits of a document come to: their answers, and the document afterwards. -/
structure Outcome where
  first : Except Fault Answer
  second : Except Fault Answer
  document : Except Fault String

def outcome (a : Archive) (o : Owner) (name : String) (r r' : Except Fault Answer) (v : World) :
    Outcome :=
  ⟨r, r', (Action.run v (a.document o name)).1⟩

/-- What two edits come to one after the other. -/
def inTurn (a : Archive) (o : Owner) (name : String) (w : World) (e f : Edit) : Outcome :=
  let (r, u) := Action.run w (a.edit o name e)
  let (r', v) := Action.run u (a.edit o name f)
  a.outcome o name r r' v

def Outcome.swap (x : Outcome) : Outcome := ⟨x.second, x.first, x.document⟩

def Answer.timeless : Answer → Answer
  | .saved m => .saved { m with updated := .epoch }
  | .updated u => .updated { u with metadata := { u.metadata with updated := .epoch } }
  | answer => answer

/-- A document without its time; other texts as they are. -/
def timelessText (text : String) : String :=
  match Snapshot.partsOfDocument text with
  | .ok (m, tables) => (Snapshot.documentOf { m with updated := .epoch } tables).pretty
  | .error _ => text

/-- An outcome without what was read from clocks. -/
def Outcome.timeless (x : Outcome) : Outcome :=
  ⟨x.first.map Answer.timeless, x.second.map Answer.timeless, x.document.map timelessText⟩

/-- Whether two edits came to what they come to in one of the two orders, times aside. -/
def IsSerial (a : Archive) (o : Owner) (name : String) (w : World) (e f : Edit) (x : Outcome) :
    Prop :=
  x.timeless = (a.inTurn o name w e f).timeless ∨
    x.timeless = (a.inTurn o name w f e).swap.timeless

lemma timeless_eq_iff {x y : Outcome} : x.timeless = y.timeless ↔
    x.first.map Answer.timeless = y.first.map Answer.timeless ∧
      x.second.map Answer.timeless = y.second.map Answer.timeless ∧
      x.document.map timelessText = y.document.map timelessText :=
  Outcome.mk.injEq .. ▸ Iff.rfl

lemma isSerial_swap_iff {x : Outcome} :
    IsSerial a o name w f e x.swap ↔ IsSerial a o name w e f x := by
  have hswap (x y : Outcome) : x.swap.timeless = y.timeless ↔ x.timeless = y.swap.timeless := by
    simp only [Outcome.timeless, Outcome.swap, Outcome.mk.injEq]
    tauto
  rw [IsSerial, IsSerial, hswap, hswap, or_comm]
  rfl

/-- An update stores what it has made of a snapshot after another edit has changed its document. -/
structure Overtakes (a : Archive) (o : Owner) (name : String) (w : World) (s : Snapshot)
    (tables : Catalog) (now : Timestamp) (f : Edit) (x : Outcome) : Prop where
  got : (Action.run w (a.get o name)).1 = .ok s
  differs : s.differsFrom tables = true
  first : x.first = .ok (.updated (replaced (.take s.name s.dialect? tables now)))
  second : x.second = (Action.run w (a.edit o name f)).1
  changed : tellsChange x.second = true
  document : x.document = .ok (Snapshot.take s.name s.dialect? tables now).toDocument

/-- Whether an update of tables that read a snapshot stores what it would have stored if it had read
what another edit of the snapshot has left, or stores what that edit would have left. -/
def Edit.Joins (name : String) (s : Snapshot) (tables : Catalog) : Edit → Prop
  | .save dialect? others _ => name = s.name ∧ dialect? = s.dialect? ∧
      (others.normalize = tables.normalize ∨
        tables.normalize.fingerprint ≠ others.normalize.normalize.fingerprint)
  | .update others _ => tables.normalize.fingerprint ≠ others.normalize.normalize.fingerprint
  | .delete => False

/-! ### Outcomes where a text stands -/

/-- What two edits come to one after the other where a text stands. -/
def successive (name : String) (text? : Option String) (e f : Edit) : Outcome :=
  let revised := e.revise name text?
  let final := f.revise name revised.2
  ⟨revised.1, final.1, documentIn name final.2⟩

lemma Offers.inTurn_eq (h : Offers a o n text? w) (e f : Edit) :
    a.inTurn o n.text w e f = successive n.text text? e f := by
  obtain ⟨u, he, hu⟩ := h.run_edit e
  obtain ⟨v, hf, hv⟩ := hu.run_edit f
  simp only [inTurn, he, hf, outcome, hv.run_document]
  rfl

lemma timelessText_toDocument (s : Snapshot) : timelessText s.toDocument =
    (Snapshot.documentOf { s.metadata with updated := .epoch } s.tables).pretty := by
  simp only [timelessText, Snapshot.toDocument, Snapshot.partsOfDocument_pretty]

/-- Two snapshots have the same document, times aside, just when they were taken of the same. -/
lemma timelessText_take_iff {name name' : String} {dialect? dialect?' : Option String}
    {tables tables' : Catalog} {now now' : Timestamp} :
    timelessText (Snapshot.take name dialect? tables now).toDocument =
        timelessText (Snapshot.take name' dialect?' tables' now').toDocument ↔
      name = name' ∧ dialect? = dialect?' ∧ tables.normalize = tables'.normalize := by
  rw [timelessText_toDocument, timelessText_toDocument]
  constructor
  · intro h
    have hparts := congrArg Snapshot.partsOfDocument h
    rw [Snapshot.partsOfDocument_pretty, Snapshot.partsOfDocument_pretty, Except.ok.injEq,
      Prod.mk.injEq, Snapshot.Metadata.mk.injEq] at hparts
    exact ⟨hparts.1.1, hparts.1.2.1, hparts.2⟩
  · rintro ⟨rfl, rfl, h⟩
    simp only [Snapshot.take, Snapshot.metadata, h]

lemma revise_update_of_differs {s : Snapshot} (hs : snapshotIn name text? = .ok s)
    {tables : Catalog} (h : s.differsFrom tables = true) (now : Timestamp) :
    (Edit.update tables now).revise name text? =
      let t := Snapshot.take s.name s.dialect? tables now
      (.ok (.updated (replaced t)), some t.toDocument) := by
  simp only [Edit.revise, hs, if_pos h]

lemma revise_update_of_same {s : Snapshot} (hs : snapshotIn name text? = .ok s)
    {tables : Catalog} (h : s.differsFrom tables = false) (now : Timestamp) :
    (Edit.update tables now).revise name text? = (.ok (.updated (unchanged s)), text?) := by
  simp only [Edit.revise, hs, h, Bool.false_eq_true, if_false]

lemma differsFrom_take_iff {name : String} {dialect? : Option String} {others tables : Catalog}
    {now : Timestamp} : (Snapshot.take name dialect? others now).differsFrom tables = true ↔
      tables.normalize.fingerprint ≠ others.normalize.fingerprint := decide_eq_true_iff

lemma timeless_replaced_take_iff {name name' : String} {dialect? dialect?' : Option String}
    {tables : Catalog} {now now' : Timestamp} :
    Answer.timeless (.updated (replaced (.take name dialect? tables now))) =
        Answer.timeless (.updated (replaced (.take name' dialect?' tables now'))) ↔
      name = name' ∧ dialect? = dialect?' := by
  simp [Answer.timeless, replaced, Snapshot.metadata, Snapshot.take]

/-- An update that overtakes does not notice that another edit has left its tables. -/
lemma timeless_updated_ne (s t : Snapshot) :
    Answer.timeless (.updated (replaced s)) ≠ Answer.timeless (.updated (unchanged t)) := by
  simp [Answer.timeless, replaced, unchanged]

/-- An answer of an update, as a stored snapshot is told, is that of an update which differs. -/
lemma differs_of_timeless {s t : Snapshot} {others : Catalog} {now' : Timestamp}
    (hread : snapshotIn name text? = .ok t)
    (h : Except.ok (Answer.timeless (.updated (replaced s))) =
      ((Edit.update others now').revise name text?).1.map Answer.timeless) :
    t.differsFrom others = true := by
  by_contra hsame
  rw [revise_update_of_same hread (Bool.not_eq_true _ ▸ hsame)] at h
  exact timeless_updated_ne _ _ (Except.ok.inj h)

section Overtaking

variable {text : String} {s : Snapshot} {tables : Catalog} {now : Timestamp}

/-- What an update and another edit of a text come to when the update reads before the other edit
and stores after it. -/
def overtaking (name : String) (text : String) (s : Snapshot) (tables : Catalog) (now : Timestamp)
    (f : Edit) : Outcome :=
  let t := Snapshot.take s.name s.dialect? tables now
  ⟨.ok (.updated (replaced t)), (f.revise name (some text)).1, .ok t.toDocument⟩

/-- The update after the other edit: it must not find its tables there. -/
lemma timeless_overtaking_after_iff {others : Catalog} {name' : String} {dialect? : Option String}
    {now' : Timestamp}
    (hf : (f.revise name (some text)).2 =
      some (Snapshot.take name' dialect? others now').toDocument) :
    (overtaking name text s tables now f).timeless =
        (successive name (some text) f (.update tables now)).swap.timeless ↔
      s.name = name' ∧ s.dialect? = dialect? ∧
        tables.normalize.fingerprint ≠ others.normalize.normalize.fingerprint := by
  have hread : snapshotIn name (some (Snapshot.take name' dialect? others now').toDocument) =
      .ok (.take name' dialect? others.normalize now') := Snapshot.ofDocument_take ..
  rw [timeless_eq_iff, successive, hf]
  by_cases h : tables.normalize.fingerprint = others.normalize.normalize.fingerprint
  · have hsame : (Snapshot.take name' dialect? others.normalize now').differsFrom tables =
        false := by
      rw [← Bool.not_eq_true, differsFrom_take_iff]
      exact not_not_intro h
    rw [revise_update_of_same hread hsame]
    constructor
    · rintro ⟨hfirst, -, -⟩
      exact absurd (Except.ok.inj hfirst) (timeless_updated_ne _ _)
    · exact fun hjoins => absurd h hjoins.2.2
  · rw [revise_update_of_differs hread (differsFrom_take_iff.mpr h)]
    constructor
    · rintro ⟨hfirst, -, -⟩
      obtain ⟨hname, hdialect⟩ := timeless_replaced_take_iff.mp (Except.ok.inj hfirst)
      exact ⟨hname, hdialect, h⟩
    · rintro ⟨hname, hdialect, -⟩
      refine ⟨congrArg Except.ok (timeless_replaced_take_iff.mpr ⟨hname, hdialect⟩), rfl, ?_⟩
      exact congrArg Except.ok (timelessText_take_iff.mpr ⟨hname, hdialect, rfl⟩)

variable (hs : Snapshot.ofDocument text = .ok s) (hdiffers : s.differsFrom tables = true)

include hs hdiffers

/-- The update before the other edit: what is found afterwards is what the other edit leaves. -/
lemma timeless_overtaking_before_iff :
    (overtaking name text s tables now f).timeless =
        (successive name (some text) (.update tables now) f).timeless ↔
      let revised := f.revise name (some (Snapshot.take s.name s.dialect? tables now).toDocument)
      (f.revise name (some text)).1.map Answer.timeless = revised.1.map Answer.timeless ∧
        Except.ok (timelessText (Snapshot.take s.name s.dialect? tables now).toDocument) =
          (documentIn name revised.2).map timelessText := by
  have hread : snapshotIn name (some text) = .ok s := hs
  rw [timeless_eq_iff, successive, revise_update_of_differs hread hdiffers]
  exact and_iff_right rfl

variable (h : Offers a o n (some text) w)

include h

lemma isSerial_overtaking_save_iff {dialect? : Option String} {others : Catalog}
    {now' : Timestamp} :
    let f : Edit := .save dialect? others now'
    IsSerial a o n.text w (.update tables now) f (overtaking n.text text s tables now f) ↔
      f.Joins n.text s tables := by
  intro f
  rw [IsSerial, h.inTurn_eq, h.inTurn_eq, timeless_overtaking_before_iff hs hdiffers,
    timeless_overtaking_after_iff rfl]
  constructor
  · rintro (⟨-, hdocument⟩ | ⟨hname, hdialect, hother⟩)
    · obtain ⟨hname, hdialect, hsame⟩ := timelessText_take_iff.mp (Except.ok.inj hdocument)
      exact ⟨hname.symm, hdialect.symm, .inl hsame.symm⟩
    · exact ⟨hname.symm, hdialect.symm, .inr hother⟩
  · rintro ⟨hname, hdialect, hsame | hother⟩
    · refine .inl ⟨rfl, congrArg Except.ok ?_⟩
      exact timelessText_take_iff.mpr ⟨hname.symm, hdialect.symm, hsame.symm⟩
    · exact .inr ⟨hname.symm, hdialect.symm, hother⟩

/-- Two updates that both find changes. If what is found afterwards is what the second one leaves
after the first, both have the same tables, and these differ from themselves once they were read. -/
lemma isSerial_overtaking_update_iff {others : Catalog} {now' : Timestamp}
    (hother : s.differsFrom others = true) :
    let f : Edit := .update others now'
    IsSerial a o n.text w (.update tables now) f (overtaking n.text text s tables now f) ↔
      f.Joins n.text s tables := by
  intro f
  have hread : snapshotIn n.text (some text) = .ok s := hs
  have hrevise := revise_update_of_differs hread hother now'
  rw [IsSerial, h.inTurn_eq, h.inTurn_eq, timeless_overtaking_before_iff hs hdiffers,
    timeless_overtaking_after_iff (congrArg Prod.snd hrevise)]
  constructor
  · rintro (⟨hanswer, hdocument⟩ | ⟨-, -, hjoins⟩)
    · have hfound : snapshotIn n.text
          (some (Snapshot.take s.name s.dialect? tables now).toDocument) =
          .ok (.take s.name s.dialect? tables.normalize now) := Snapshot.ofDocument_take ..
      rw [hrevise] at hanswer
      have hagain := differs_of_timeless hfound hanswer
      rw [revise_update_of_differs hfound hagain] at hdocument
      obtain ⟨-, -, hsame⟩ := timelessText_take_iff.mp (Except.ok.inj hdocument)
      rw [differsFrom_take_iff, ← hsame] at hagain
      rw [Edit.Joins, ← hsame]
      exact hagain
    · exact hjoins
  · exact fun hjoins => .inr ⟨rfl, rfl, hjoins⟩

/-- No order leaves a document that was deleted after it had been updated. -/
lemma not_isSerial_overtaking_delete : ¬ IsSerial a o n.text w (.update tables now) .delete
    (overtaking n.text text s tables now .delete) := by
  rw [IsSerial, h.inTurn_eq, h.inTurn_eq, timeless_overtaking_before_iff hs hdiffers]
  rintro (⟨-, hdocument⟩ | hafter)
  · cases hdocument
  · cases (timeless_eq_iff.mp hafter).1

/-- What an update that overtakes and the other edit come to is what they come to in turn just when
the update joins the other edit. -/
lemma isSerial_overtaking_iff
    (hchange : tellsChange (f.revise n.text (some text)).1 = true) :
    IsSerial a o n.text w (.update tables now) f (overtaking n.text text s tables now f) ↔
      f.Joins n.text s tables := by
  cases f with
  | save dialect? others now' => exact isSerial_overtaking_save_iff hs hdiffers h
  | update others now' =>
    refine isSerial_overtaking_update_iff hs hdiffers h ?_
    by_contra hsame
    have hread : snapshotIn n.text (some text) = .ok s := hs
    rw [revise_update_of_same hread (Bool.not_eq_true _ ▸ hsame)] at hchange
    cases hchange
  | delete => exact iff_of_false (not_isSerial_overtaking_delete hs hdiffers h) id

end Overtaking

/-! ### Requests of edits -/

section Requests

variable (a : Archive) (o : Owner) (name : String)

lemma follows_readDocument (n : Segment) : (a.readDocument o n).Follows [(·.looks = true)] := by
  refine (Action.follows_ask (P := (·.looks = true)) rfl).bind_done fun reply => ?_
  rcases reply with cause | text
  · cases cause with
    | notFound => exact Action.follows_pure _ _
    | _ => exact Action.follows_throw _ _
  · exact Action.follows_pure _ _

lemma follows_get : (a.get o name).Follows [(·.looks = true)] := by
  refine Action.Follows.bind_done (Action.follows_liftExcept_bind fun n => ?_) fun text =>
    Action.follows_liftExcept _ _
  refine (follows_readDocument a o n).bind_done fun text? => ?_
  rcases text? with _ | text
  · exact Action.follows_throw _ _
  · exact Action.follows_pure _ _

lemma follows_writeDocument (n : Segment) (text : String) :
    (a.writeDocument o n text).Follows [(·.looks = false)] := by
  refine (Action.follows_ask (P := (·.looks = false)) rfl).bind_done fun reply => ?_
  rcases reply with ⟨p, cause⟩ | done
  · exact Action.follows_throw _ _
  · exact Action.follows_pure _ _

lemma follows_removeDocument (n : Segment) :
    (a.removeDocument o n).Follows [(·.looks = false)] := by
  refine (Action.follows_ask (P := (·.looks = false)) rfl).bind_done fun reply => ?_
  rcases reply with cause | there
  · exact Action.follows_throw _ _
  · exact Action.follows_pure _ _

/-- What an update does with the snapshot that it has read. -/
def storing (tables : Catalog) (now : Timestamp) (s : Snapshot) : Action Answer :=
  .updated <$> (do
    if s.differsFrom tables then
      let t := s.update tables now
      a.writeDocument o (← liftExcept (nameOfText name)) t.toDocument
      return replaced t
    else return unchanged s)

lemma edit_update (tables : Catalog) (now : Timestamp) :
    a.edit o name (.update tables now) = a.get o name >>= a.storing o name tables now := by
  rw [edit, Edit.errand, Errand.perform, update, map_bind]
  rfl

lemma follows_storing (tables : Catalog) (now : Timestamp) (s : Snapshot) :
    (a.storing o name tables now s).Follows [(·.looks = false)] := by
  refine Action.Follows.map ?_ _
  split
  · exact Action.follows_liftExcept_bind fun n =>
      (follows_writeDocument a o n _).bind_done fun _ => Action.follows_pure _ _
  · exact Action.follows_pure _ _

/-- An edit that is no update only makes a change. -/
lemma follows_edit_of_not_update (e : Edit) (h : ∀ tables now, e ≠ .update tables now) :
    (a.edit o name e).Follows [(·.looks = false)] := by
  cases e with
  | save dialect? tables now =>
    exact Action.Follows.map (Action.follows_liftExcept_bind fun n =>
      (follows_writeDocument a o n _).bind_done fun _ => Action.follows_pure _ _) _
  | update tables now => exact absurd rfl (h tables now)
  | delete =>
    exact Action.Follows.map (Action.follows_liftExcept_bind fun n =>
      follows_removeDocument a o n) _

/-- An edit is a look at its document at most, and one change at most. -/
lemma follows_edit (e : Edit) :
    (a.edit o name e).Follows [(·.looks = true), (·.looks = false)] := by
  by_cases h : ∃ tables now, e = .update tables now
  · obtain ⟨tables, now, rfl⟩ := h
    rw [edit_update]
    exact (follows_get a o name).bind fun s => follows_storing a o name tables now s
  · exact .skip (follows_edit_of_not_update a o name e fun tables now he => h ⟨tables, now, he⟩)

end Requests

/-! ### Interleavings of edits -/

lemma revise_of_tellsChange_eq_false (h : tellsChange (e.revise name text?).1 = false) :
    (e.revise name text?).2 = text? := by
  cases e with
  | save dialect? tables now => cases h
  | update tables now =>
    rcases hs : snapshotIn name text? with fault | s
    · simp only [Edit.revise, hs]
    · by_cases hdiffers : s.differsFrom tables = true
      · rw [revise_update_of_differs hs hdiffers] at h
        cases h
      · rw [revise_update_of_same hs (Bool.not_eq_true _ ▸ hdiffers)]
  | delete =>
    rcases text? with _ | text
    · rfl
    · cases h

lemma run_edit_update (a : Archive) (o : Owner) (name : String) (w : World) (tables : Catalog)
    (now : Timestamp) : Action.run w (a.edit o name (.update tables now)) =
      match (Action.run w (a.get o name)).1 with
      | .ok s => Action.run w (a.storing o name tables now s)
      | .error fault => (.error fault, w) := by
  have hget := Action.world_run_of_looks
    (asks_get (P := (·.looks = true)) a o (fun _ => rfl) name) w
  rw [edit_update]
  rcases hs : (Action.run w (a.get o name)).1 with fault | s
  · exact Action.run_bind_error (Prod.ext hs hget) _
  · exact Action.run_bind_ok (Prod.ext hs hget) _

lemma run_storing_of_same {s : Snapshot} {tables : Catalog} (h : s.differsFrom tables = false)
    (w : World) (now : Timestamp) :
    Action.run w (a.storing o name tables now s) = (.ok (.updated (unchanged s)), w) := by
  rw [storing, h]
  rfl

lemma Offers.run_storing (h : Offers a o n text? w) {s : Snapshot} {tables : Catalog}
    (hdiffers : s.differsFrom tables = true) (now : Timestamp) :
    let t := Snapshot.take s.name s.dialect? tables now
    ∃ v, Action.run w (a.storing o n.text tables now s) = (.ok (.updated (replaced t)), v) ∧
      Offers a o n (some t.toDocument) v := by
  intro t
  obtain ⟨v, hwrite, hv⟩ := h.run_writeDocument t.toDocument
  refine ⟨v, ?_, hv⟩
  rw [storing, Action.run_map, if_pos hdiffers, Snapshot.update, if_pos hdiffers, nameOfText_text,
    Action.run_bind_ok (Action.run_liftExcept w _), Action.run_bind_ok hwrite]
  rfl

lemma outcome_of_inTurn {r r' : Except Fault Answer}
    (h : Session.InTurn (ExceptT.run (a.edit o name e)) (ExceptT.run (a.edit o name f)) w r r' v) :
    a.outcome o name r r' v = a.inTurn o name w e f := by
  obtain ⟨u, he, hf⟩ := h
  have hfirst : Action.run w (a.edit o name e) = (r, u) := he
  have hsecond : Action.run u (a.edit o name f) = (r', v) := hf
  simp only [inTurn, hfirst, hsecond]

/-- What an update and another edit come to when the update has read a snapshot before the other
edit and goes on after it. -/
lemma outcome_of_storing {text : String} (h : Offers a o n (some text) w) {s : Snapshot}
    {tables : Catalog} (hdiffers : s.differsFrom tables = true) (now : Timestamp) (f : Edit) :
    ∃ u r r' v, Action.run w (a.edit o n.text f) = (r', u) ∧
      Action.run u (a.storing o n.text tables now s) = (r, v) ∧
      a.outcome o n.text r r' v = overtaking n.text text s tables now f := by
  obtain ⟨u, hf, hu⟩ := h.run_edit f
  obtain ⟨v, he, hv⟩ := hu.run_storing hdiffers now
  refine ⟨u, _, _, v, hf, he, ?_⟩
  rw [outcome, hv.run_document]
  rfl

/-- An update can overtake any edit. -/
lemma exists_overtaking {text : String} (h : Offers a o n (some text) w) {s : Snapshot}
    (hs : Snapshot.ofDocument text = .ok s) {tables : Catalog}
    (hdiffers : s.differsFrom tables = true) (now : Timestamp) (f : Edit) :
    ∃ r r' v, Session.Interleaved (ExceptT.run (a.edit o n.text (.update tables now)))
        (ExceptT.run (a.edit o n.text f)) w r r' v ∧
      a.outcome o n.text r r' v = overtaking n.text text s tables now f := by
  obtain ⟨u, r, r', v, hf, he, houtcome⟩ := outcome_of_storing h hdiffers now f
  refine ⟨r, r', v, Session.interleaved_of_looked ⟨u, hf, ?_⟩, houtcome⟩
  have hget : (Action.run w (a.get o n.text)).1 = .ok s := by rw [h.run_get]; exact hs
  rw [edit_update, Action.run_looked_bind (follows_get a o n.text)
    (follows_storing a o n.text tables now), hget]
  exact he

/-- Where a document is not changed meanwhile, there is nothing to overtake. -/
lemma eq_or_overtakes_of_differs {text : String} (h : Offers a o n (some text) w) {s : Snapshot}
    (hs : Snapshot.ofDocument text = .ok s) {tables : Catalog}
    (hdiffers : s.differsFrom tables = true) (now : Timestamp) (f : Edit) :
    let e : Edit := .update tables now
    let x := overtaking n.text text s tables now f
    x = (a.inTurn o n.text w f e).swap ∨ Overtakes a o n.text w s tables now f x ∧
      (IsSerial a o n.text w e f x ↔ f.Joins n.text s tables) := by
  intro e x
  have hfound : snapshotIn n.text (some text) = .ok s := hs
  obtain ⟨u, hf, -⟩ := h.run_edit f
  by_cases hchange : tellsChange (f.revise n.text (some text)).1 = true
  · refine .inr ⟨⟨?_, hdiffers, rfl, ?_, hchange, rfl⟩, ?_⟩
    · rw [h.run_get, hfound]
    · rw [hf]
      rfl
    · exact isSerial_overtaking_iff hs hdiffers h hchange
  · rw [Bool.not_eq_true] at hchange
    rw [h.inTurn_eq, successive, revise_of_tellsChange_eq_false hchange,
      revise_update_of_differs hfound hdiffers]
    exact .inl rfl

/-- An edit that looks before another one and goes on after it comes to what it comes to in turn,
or it overtakes. -/
lemma eq_or_overtakes {r r' : Except Fault Answer}
    (h : Session.InTurn (ExceptT.run (a.edit o name f))
      (Session.looked w (ExceptT.run (a.edit o name e))) w r' r v) :
    let x := a.outcome o name r r' v
    (x = a.inTurn o name w e f ∨ x = (a.inTurn o name w f e).swap) ∨
      ∃ s tables now, e = .update tables now ∧ Overtakes a o name w s tables now f x ∧
        (IsSerial a o name w e f x ↔ f.Joins name s tables) := by
  intro x
  obtain ⟨u, hf, he⟩ := h
  by_cases hupdate : ∃ tables now, e = .update tables now
  swap
  · have hblind := follows_edit_of_not_update a o name e fun tables now heq =>
      hupdate ⟨tables, now, heq⟩
    rw [Session.looked_of_not_looks hblind] at he
    exact .inl (.inr (congrArg Outcome.swap (outcome_of_inTurn ⟨u, hf, he⟩)))
  obtain ⟨tables, now, rfl⟩ := hupdate
  have hfirst := run_edit_update a o name w tables now
  rw [edit_update, Action.run_looked_bind (follows_get a o name)
    (follows_storing a o name tables now)] at he
  rcases hs : (Action.run w (a.get o name)).1 with fault | s
  · rw [hs] at he hfirst
    cases he
    exact .inl (.inl (outcome_of_inTurn ⟨w, hfirst, hf⟩))
  rw [hs] at he hfirst
  by_cases hdiffers : s.differsFrom tables = true
  swap
  · rw [Bool.not_eq_true] at hdiffers
    have hlast := (run_storing_of_same hdiffers u now).symm.trans he
    cases hlast
    have hidle := hfirst.trans (run_storing_of_same hdiffers w now)
    exact .inl (.inl (outcome_of_inTurn ⟨w, hidle, hf⟩))
  obtain ⟨n, rfl, text, hread, htext⟩ := exists_read_of_get hs
  have hoffers : Offers a o n (some text) w := Disk.offers_of_read hread
  obtain ⟨u', q, q', v', hf', he', houtcome⟩ := outcome_of_storing hoffers hdiffers now f
  obtain ⟨rfl, rfl⟩ := Prod.mk.inj (hf.symm.trans hf')
  obtain ⟨rfl, rfl⟩ := Prod.mk.inj (he.symm.trans he')
  simp only [x, houtcome]
  rcases eq_or_overtakes_of_differs hoffers htext hdiffers now f with hx | hx
  · exact .inl (.inr hx)
  · exact .inr ⟨s, tables, now, rfl, hx⟩

/-- **Two edits of one document at once.** In whatever order their requests are answered, they come
to what they come to one after the other, in one order or the other, unless an update overtakes: it
has read a snapshot before the other edit changes the document, and stores after it. Each is then
answered as if it were alone, the tables of the update stand under the name and the dialect that it
has read, and no order comes to the same, times aside, unless the update joins the other edit. -/
theorem interleaved_edits (a : Archive) (o : Owner) (name : String) (w : World) (e f : Edit)
    {r r' : Except Fault Answer} {v : World}
    (h : Session.Interleaved (ExceptT.run (a.edit o name e)) (ExceptT.run (a.edit o name f)) w
      r r' v) :
    let x := a.outcome o name r r' v
    (x = a.inTurn o name w e f ∨ x = (a.inTurn o name w f e).swap) ∨
      (∃ s tables now, e = .update tables now ∧ Overtakes a o name w s tables now f x ∧
        (IsSerial a o name w e f x ↔ f.Joins name s tables)) ∨
      ∃ s tables now, f = .update tables now ∧ Overtakes a o name w s tables now e x.swap ∧
        (IsSerial a o name w e f x ↔ e.Joins name s tables) := by
  intro x
  rcases (Session.interleaved_iff (follows_edit a o name e) (follows_edit a o name f)).mp h with
    h | h | h | h
  · exact .inl (.inl (outcome_of_inTurn h))
  · exact .inl (.inr (congrArg Outcome.swap (outcome_of_inTurn h)))
  · rcases eq_or_overtakes h with (hx | hx) | ⟨s, tables, now, rfl, hovertakes, hserial⟩
    · exact .inl (.inr (congrArg Outcome.swap hx))
    · exact .inl (.inl (congrArg Outcome.swap hx))
    · refine .inr (.inr ⟨s, tables, now, rfl, hovertakes, ?_⟩)
      rw [← hserial, ← isSerial_swap_iff]
      rfl
  · rcases eq_or_overtakes h with hx | hx
    · exact .inl hx
    · exact .inr (.inl hx)

/-- The snapshot that the stocked surroundings have in place. -/
lemma offers_stocked : Offers depot keeper label
    (some (Snapshot.take label.text none (oneColumn "Aa") .epoch).toDocument) stocked :=
  Disk.offers_of_read (holds_stocked.read_document keeper label)

lemma ofDocument_stocked :
    Snapshot.ofDocument (Snapshot.take label.text none (oneColumn "Aa") .epoch).toDocument =
      .ok (.take label.text none (oneColumn "Aa").normalize .epoch) := Snapshot.ofDocument_take ..

lemma differs_stocked : (Snapshot.take label.text none (oneColumn "Aa").normalize
    .epoch).differsFrom (oneColumn "id") = true := by decide +kernel

/-- A deleted document that comes back: the delete found it, and the update stored it anew. -/
theorem exists_not_serial : ¬ ∀ (a : Archive) (o : Owner) (name : String) (w : World) (e f : Edit)
    (r r' : Except Fault Answer) (v : World),
    Session.Interleaved (ExceptT.run (a.edit o name e)) (ExceptT.run (a.edit o name f)) w r r' v →
      IsSerial a o name w e f (a.outcome o name r r' v) := by
  intro h
  obtain ⟨r, r', v, hinterleaved, houtcome⟩ :=
    exists_overtaking offers_stocked ofDocument_stocked differs_stocked .epoch .delete
  have hserial := h depot keeper label.text stocked _ .delete r r' v hinterleaved
  rw [houtcome, isSerial_overtaking_iff ofDocument_stocked differs_stocked offers_stocked rfl]
    at hserial
  exact hserial

/-- Two updates that do not end alike in both orders: one that goes on after the other one comes to
what the two come to in turn. -/
theorem overtaken_update : ∃ r r' v,
    Session.Interleaved (ExceptT.run (depot.edit keeper "crm" (.update (oneColumn "id") .epoch)))
        (ExceptT.run (depot.edit keeper "crm" (.update (oneColumn "name") .epoch))) stocked
        r r' v ∧
      IsSerial depot keeper "crm" stocked (.update (oneColumn "id") .epoch)
        (.update (oneColumn "name") .epoch) (depot.outcome keeper "crm" r r' v) := by
  obtain ⟨r, r', v, hinterleaved, -⟩ := exists_overtaking offers_stocked ofDocument_stocked
    differs_stocked .epoch (.update (oneColumn "name") .epoch)
  refine ⟨r, r', v, hinterleaved, ?_⟩
  rcases interleaved_edits depot keeper "crm" stocked _ _ hinterleaved with
    (hx | hx) | ⟨s, tables, now, he, -, hserial⟩ | ⟨s, tables, now, hf, -, hserial⟩
  · exact .inl (congrArg Outcome.timeless hx)
  · exact .inr (congrArg Outcome.timeless hx)
  · refine hserial.mpr ?_
    cases he
    rw [Edit.Joins]
    decide +kernel
  · refine hserial.mpr ?_
    cases hf
    rw [Edit.Joins]
    decide +kernel

end QueryGate.Archive
