import QueryGate.Proofs.Sessions
import QueryGate.Proofs.Shelf

/-!
What owners have done at an archive. The names are as they are given, so that an errand may fail;
whatever comes of it, its requests are for the owner's directory and for files in it.
-/

namespace QueryGate.Archive

/-- What an owner can have done; times are given with the errands. -/
inductive Errand
  | save (name : String) (dialect? : Option String) (tables : Catalog) (now : Timestamp)
  | update (name : String) (tables : Catalog) (now : Timestamp)
  | delete (name : String)
  | get (name : String)
  | document (name : String)
  | diff (name : String) (tables : Catalog)
  | list

def Errand.perform (a : Archive) (o : Owner) : Errand → Action Answer
  | .save name dialect? tables now => .saved <$> a.save o name dialect? tables now
  | .update name tables now => .updated <$> a.update o name tables now
  | .delete name => .deleted <$> a.delete o name
  | .get name => .found <$> a.get o name
  | .document name => .document <$> a.document o name
  | .diff name tables => .difference <$> a.diff o name tables
  | .list => .listed <$> a.list o

/-- The errands of a history one after another, with what comes of each for its owner. -/
def attend (a : Archive) (w : World) :
    List (Owner × Errand) → List (Owner × Except Fault Answer) × World
  | [] => ([], w)
  | (o, e) :: es =>
    let (r, v) := Action.run w (e.perform a o)
    let (rs, u) := a.attend v es
    ((o, r) :: rs, u)

/-- The part of a history or of its answers that is an owner's. -/
def ownPart {α : Type} (o : Owner) (xs : List (Owner × α)) : List (Owner × α) :=
  xs.filter (·.1 = o)

lemma ownPart_cons_self {α : Type} (o : Owner) (x : α) (xs : List (Owner × α)) :
    ownPart o ((o, x) :: xs) = (o, x) :: ownPart o xs := by
  simp [ownPart]

lemma ownPart_cons_of_ne {α : Type} {o p : Owner} (h : p ≠ o) (x : α) (xs : List (Owner × α)) :
    ownPart o ((p, x) :: xs) = ownPart o xs := by
  simp [ownPart, h]

/-! ### Requests of errands -/

section Requests

variable {P : Request → Prop} (a : Archive) (o : Owner)

lemma asks_readDocument {n : Segment} (hread : P (.read (a.documentPath o n))) :
    (a.readDocument o n).Asks P := by
  refine (Action.asks_ask hread).bind fun reply => ?_
  rcases reply with cause | text
  · cases cause with
    | notFound => exact Action.asks_pure _ _
    | _ => exact Action.asks_throw _ _
  · exact Action.asks_pure _ _

lemma asks_writeDocument {n : Segment} {text : String}
    (hplace : P (.place (a.directory o) (fileName n) text)) :
    (a.writeDocument o n text).Asks P := by
  refine (Action.asks_ask hplace).bind fun reply => ?_
  rcases reply with ⟨p, cause⟩ | done
  · exact Action.asks_throw _ _
  · exact Action.asks_pure _ _

lemma asks_removeDocument {n : Segment} (hremove : P (.remove (a.documentPath o n))) :
    (a.removeDocument o n).Asks P := by
  refine (Action.asks_ask hremove).bind fun reply => ?_
  rcases reply with cause | there
  · exact Action.asks_throw _ _
  · exact Action.asks_pure _ _

lemma asks_documents (hlist : P (.list (a.directory o))) : (a.documents o).Asks P := by
  refine (Action.asks_ask hlist).bind fun reply => ?_
  rcases reply with cause | entries
  · cases cause with
    | notFound => exact Action.asks_pure _ _
    | _ => exact Action.asks_throw _ _
  · exact Action.asks_pure _ _

variable (hread : ∀ n, P (.read (a.documentPath o n)))

include hread

lemma asks_document (name : String) : (a.document o name).Asks P := by
  refine (Action.asks_liftExcept _ _).bind fun n =>
    (asks_readDocument a o (hread n)).bind fun text? => ?_
  rcases text? with _ | text
  · exact Action.asks_throw _ _
  · exact Action.asks_pure _ _

lemma asks_get (name : String) : (a.get o name).Asks P :=
  (asks_document a o hread name).bind fun _ => Action.asks_liftExcept _ _

lemma asks_diff (name : String) (tables : Catalog) : (a.diff o name tables).Asks P :=
  (asks_get a o hread name).bind fun _ => Action.asks_pure _ _

lemma asks_listed? (d : Stored) : (a.listed? o d).Asks P :=
  (Action.asks_liftExcept _ _).bind fun n =>
    (asks_readDocument a o (hread n)).bind fun _ => Action.asks_pure _ _

lemma asks_list (hlist : P (.list (a.directory o))) : (a.list o).Asks P :=
  (asks_documents a o hlist).bind fun ds =>
    (Action.Asks.mapM (asks_listed? a o hread) ds).bind fun _ => Action.asks_pure _ _

end Requests

/-- The requests for an owner's directory and for files of documents in it. -/
inductive Concerns (a : Archive) (o : Owner) : Request → Prop
  | read (n : Segment) : Concerns a o (.read (a.documentPath o n))
  | list : Concerns a o (.list (a.directory o))
  | place (n : Segment) (text : String) : Concerns a o (.place (a.directory o) (fileName n) text)
  | remove (n : Segment) : Concerns a o (.remove (a.documentPath o n))

variable (a : Archive) (o : Owner)

lemma asks_save (name : String) (dialect? : Option String) (tables : Catalog) (now : Timestamp) :
    (a.save o name dialect? tables now).Asks (Concerns a o) :=
  (Action.asks_liftExcept _ _).bind fun n =>
    (asks_writeDocument a o (.place n _)).bind fun _ => Action.asks_pure _ _

lemma asks_update (name : String) (tables : Catalog) (now : Timestamp) :
    (a.update o name tables now).Asks (Concerns a o) := by
  refine (asks_get a o .read name).bind fun s => ?_
  split
  · exact (Action.asks_liftExcept _ _).bind fun n =>
      (asks_writeDocument a o (.place n _)).bind fun _ => Action.asks_pure _ _
  · exact Action.asks_pure _ _

/-- **An errand keeps to its owner's directory.** -/
theorem asks_perform (e : Errand) : (e.perform a o).Asks (Concerns a o) := by
  cases e with
  | save name dialect? tables now => exact (asks_save a o name dialect? tables now).map _
  | update name tables now => exact (asks_update a o name tables now).map _
  | delete name =>
    exact ((Action.asks_liftExcept _ _).bind fun n => asks_removeDocument a o (.remove n)).map _
  | get name => exact (asks_get a o .read name).map _
  | document name => exact (asks_document a o .read name).map _
  | diff name tables => exact (asks_diff a o .read name tables).map _
  | list => exact (asks_list a o .read .list).map _

end QueryGate.Archive
