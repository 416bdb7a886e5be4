import Mathlib.Tactic.Common
import QueryGate.Session

/-!
How actions run one after another, and what the requests of a session say about its runs.
-/

namespace QueryGate

/-- Surroundings with an empty disk, in which nothing else answers. -/
def World.bare : World where
  disk := .empty
  input := .error .notFound
  clock _ := .epoch
  readings := 0
  replies _ := .refused
  calls := []
  database _ := none

namespace Action

variable {α β : Type} {w v : World}

lemma run_pure (w : World) (a : α) : Action.run w (pure a : Action α) = (.ok a, w) := rfl

lemma run_ask (w : World) (r : Request) :
    Action.run w (Action.ask r) = (.ok (w.answer r).1, (w.answer r).2) := rfl

lemma run_liftExcept (w : World) (x : Except Fault α) :
    Action.run w (liftExcept x : Action α) = (x, w) := by
  rcases x with e | a
  · rfl
  · rfl

lemma run_bind_ok {x : Action α} {a : α} (h : Action.run w x = (.ok a, v)) (f : α → Action β) :
    Action.run w (x >>= f) = Action.run v (f a) := by
  have hr : Session.run w (ExceptT.run x) = (.ok a, v) := h
  rw [Action.run, ExceptT.run_bind]
  refine (Session.run_bind w (ExceptT.run x) _).trans ?_
  rw [hr]
  rfl

lemma run_bind_error {x : Action α} {e : Fault} (h : Action.run w x = (.error e, v))
    (f : α → Action β) : Action.run w (x >>= f) = (.error e, v) := by
  have hr : Session.run w (ExceptT.run x) = (.error e, v) := h
  rw [Action.run, ExceptT.run_bind]
  refine (Session.run_bind w (ExceptT.run x) _).trans ?_
  rw [hr]
  rfl

lemma exists_of_run_bind {x : Action α} {f : α → Action β} {b : β}
    (h : (Action.run w (x >>= f)).1 = .ok b) :
    ∃ a v, Action.run w x = (.ok a, v) ∧ (Action.run v (f a)).1 = .ok b := by
  rcases hx : Action.run w x with ⟨e | a, v⟩
  · rw [run_bind_error hx] at h
    cases h
  · rw [run_bind_ok hx] at h
    exact ⟨a, v, rfl, h⟩

lemma run_ask_bind (w : World) (r : Request) (f : r.Reply → Action β) :
    Action.run w (Action.ask r >>= f) = Action.run (w.answer r).2 (f (w.answer r).1) :=
  run_bind_ok (run_ask w r) f

lemma run_map (w : World) (f : α → β) (x : Action α) :
    Action.run w (f <$> x) = ((Action.run w x).1.map f, (Action.run w x).2) := by
  rcases h : Action.run w x with ⟨e | b, v⟩
  · rw [← bind_pure_comp, run_bind_error h]
    rfl
  · rw [← bind_pure_comp, run_bind_ok h]
    rfl

/-- A traversal that only looks at the world ends as the traversal of what is seen. -/
lemma run_mapM_results {f : α → Action β} {g : α → Except Fault β} {xs : List α}
    (h : ∀ x ∈ xs, Action.run w (f x) = (g x, w)) :
    Action.run w (xs.mapM f) = (xs.mapM g, w) := by
  induction xs with
  | nil =>
    rw [List.mapM_nil]
    rfl
  | cons x xs ih =>
    have hx := h x List.mem_cons_self
    have hxs := ih fun y hy => h y (List.mem_cons_of_mem _ hy)
    rw [List.mapM_cons, List.mapM_cons]
    rcases hg : g x with e | b
    · rw [hg] at hx
      exact run_bind_error hx _
    · rw [hg] at hx
      rw [run_bind_ok hx]
      rcases hgs : xs.mapM g with e | bs
      · rw [hgs] at hxs
        exact run_bind_error hxs _
      · rw [hgs] at hxs
        rw [run_bind_ok hxs]
        rfl

lemma run_mapM {f : α → Action β} {g : α → β} {xs : List α}
    (h : ∀ x ∈ xs, Action.run w (f x) = (.ok (g x), w)) :
    Action.run w (xs.mapM f) = (.ok (xs.map g), w) := by
  have hpure : xs.mapM (fun x => (.ok (g x) : Except Fault β)) = .ok (xs.map g) :=
    List.mapM_pure
  rw [run_mapM_results h, hpure]

end Action

/-! ### Requests -/

namespace Session

variable {α β : Type} {P : Request → Prop}

/-- All requests that a session may make are of one kind, whatever is replied. -/
inductive Asks (P : Request → Prop) : Session α → Prop
  | done (a : α) : Asks P (.done a)
  | ask {r : Request} {next : r.Reply → Session α} (hr : P r)
      (hnext : ∀ reply, Asks P (next reply)) : Asks P (.ask r next)

lemma Asks.bind {s : Session α} {f : α → Session β} (hs : s.Asks P) (hf : ∀ a, (f a).Asks P) :
    (s.bind f).Asks P := by
  induction hs with
  | done a => exact hf a
  | ask hr _ ih => exact .ask hr ih

/-- What every request of a session keeps of a world, a run keeps. -/
lemma Asks.run_keeps {I : World → Prop} (hstep : ∀ r w, P r → I w → I (w.answer r).2)
    {s : Session α} (hs : s.Asks P) {w : World} (hw : I w) : I (s.run w).2 := by
  induction hs generalizing w with
  | done a => exact hw
  | ask hr _ ih => exact ih _ (hstep _ w hr hw)

/-- Two worlds that no request of a session tells apart are not told apart by a run. -/
lemma Asks.run_congr {R : World → World → Prop}
    (hstep : ∀ r v w, P r → R v w →
      (v.answer r).1 = (w.answer r).1 ∧ R (v.answer r).2 (w.answer r).2)
    {s : Session α} (hs : s.Asks P) {v w : World} (h : R v w) :
    (s.run v).1 = (s.run w).1 ∧ R (s.run v).2 (s.run w).2 := by
  induction hs generalizing v w with
  | done a => exact ⟨rfl, h⟩
  | @ask r next hr _ ih =>
    obtain ⟨hreply, hafter⟩ := hstep r v w hr h
    rw [run, run, hreply]
    exact ih _ hafter

end Session

namespace Action

variable {α β : Type} {P : Request → Prop}

def Asks (P : Request → Prop) (x : Action α) : Prop := Session.Asks P (ExceptT.run x)

lemma asks_pure (P : Request → Prop) (a : α) : Asks P (pure a : Action α) := .done _

lemma asks_liftExcept (P : Request → Prop) (x : Except Fault α) :
    Asks P (liftExcept x : Action α) := by
  rcases x with e | a
  · exact .done _
  · exact .done _

lemma asks_throw (P : Request → Prop) (e : Fault) : Asks P (throw e : Action α) := .done _

lemma asks_ask {r : Request} (h : P r) : Asks P (Action.ask r) := .ask h fun _ => .done _

lemma Asks.bind {x : Action α} {f : α → Action β} (hx : x.Asks P) (hf : ∀ a, (f a).Asks P) :
    (x >>= f).Asks P := by
  rw [Asks, ExceptT.run_bind]
  refine Session.Asks.bind hx fun r => ?_
  rcases r with e | a
  · exact .done _
  · exact hf a

lemma Asks.map {x : Action α} (hx : x.Asks P) (f : α → β) : (f <$> x).Asks P := by
  rw [← bind_pure_comp]
  exact hx.bind fun a => asks_pure P (f a)

lemma Asks.mapM {f : α → Action β} (h : ∀ a, (f a).Asks P) (as : List α) :
    (as.mapM f).Asks P := by
  induction as with
  | nil =>
    rw [List.mapM_nil]
    exact asks_pure P []
  | cons a as ih =>
    rw [List.mapM_cons]
    exact (h a).bind fun b => ih.bind fun bs => asks_pure P (b :: bs)

end Action

/-! ### Looks -/

/-- Whether a request looks at a disk and leaves it as it is. -/
def Request.looks : Request → Bool
  | .read _ | .list _ => true
  | _ => false

lemma World.answer_of_looks {r : Request} (h : r.looks = true) (w : World) :
    (w.answer r).2 = w := by
  cases r with
  | read | list => rfl
  | _ => cases h

/-- An action that only looks leaves all as it is. -/
lemma Action.world_run_of_looks {α : Type} {x : Action α} (h : x.Asks (·.looks = true))
    (w : World) : (Action.run w x).2 = w :=
  Session.Asks.run_keeps (I := (· = w)) (fun _ v hr hv => (v.answer_of_looks hr).trans hv) h rfl

end QueryGate
