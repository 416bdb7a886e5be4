import QueryGate.Disk
import QueryGate.Introspection
import QueryGate.Model.Exchange
import QueryGate.Timestamp

/-!
Work that talks to its surroundings: a disk, an input, a clock, databases and models. A session
is the requests it makes and what it does with each reply, so that the same session can be run in a
world that is a value.
-/

namespace QueryGate

inductive Request
  | read (p : Path)
  | list (p : Path)
  | place (directory : Path) (name text : String)
  | remove (p : Path)
  | input
  | now
  | post (c : Model.Call)
  | consult (q : Introspection.Query)

/-- What comes back for a request. -/
def Request.Reply : Request → Type
  | .read _ => Except FileCause String
  | .list _ => Except FileCause (List Disk.Entry)
  | .place .. => Except (Path × FileCause) Unit
  | .remove _ => Except FileCause Bool
  | .input => Except FileCause String
  | .now => Timestamp
  | .post _ => Model.Reply
  | .consult _ => Option Introspection.Listing

inductive Session (α : Type) : Type
  | done (a : α)
  | ask (r : Request) (next : r.Reply → Session α)

namespace Session

def bind {α β : Type} (s : Session α) (f : α → Session β) : Session β :=
  match s with
  | .done a => f a
  | .ask r next => .ask r fun reply => (next reply).bind f

instance : Monad Session where
  pure := done
  bind := bind

theorem bind_done {α : Type} (s : Session α) : s.bind done = s := by
  induction s with
  | done a => rfl
  | ask r next ih => exact congrArg (ask r) (funext ih)

theorem bind_assoc {α β γ : Type} (s : Session α) (f : α → Session β) (g : β → Session γ) :
    (s.bind f).bind g = s.bind fun a => (f a).bind g := by
  induction s with
  | done a => rfl
  | ask r next ih => exact congrArg (ask r) (funext ih)

instance : LawfulMonad Session := LawfulMonad.mk' Session
  (fun s => bind_done s) (fun _ _ => rfl) (fun s f g => bind_assoc s f g)

end Session

/-- Work that may end in a fault. -/
abbrev Action := ExceptT Fault Session

def Action.ask (r : Request) : Action r.Reply := ExceptT.lift (.ask r .done)

/-- The surroundings of a session. The clock and the models are read in order; a database that
cannot be reached lists nothing. -/
structure World where
  disk : Disk
  input : Except FileCause String
  clock : Nat → Timestamp
  readings : Nat
  replies : Nat → Model.Reply
  calls : List Model.Call
  database : Introspection.Query → Option Introspection.Listing

namespace World

def answer (w : World) : (r : Request) → r.Reply × World
  | .read p => (w.disk.read p, w)
  | .list p => (w.disk.list p, w)
  | .place directory name text =>
    match w.disk.place directory name text with
    | .ok d => (Except.ok (), { w with disk := d })
    | .error e => (Except.error e, w)
  | .remove p =>
    match w.disk.remove p with
    | .ok (there, d) => (Except.ok there, { w with disk := d })
    | .error e => (Except.error e, w)
  | .input => (w.input, w)
  | .now => (w.clock w.readings, { w with readings := w.readings + 1 })
  | .post c => (w.replies w.calls.length, { w with calls := w.calls ++ [c] })
  | .consult q => (w.database q, w)

end World

namespace Session

def run {α : Type} (w : World) : Session α → α × World
  | .done a => (a, w)
  | .ask r next => (next (w.answer r).1).run (w.answer r).2

theorem run_bind {α β : Type} (w : World) (s : Session α) (f : α → Session β) :
    (s.bind f).run w = (f (s.run w).1).run (s.run w).2 := by
  induction s generalizing w with
  | done a => rfl
  | ask r next ih => exact ih _ _

end Session

/-- How an action ends in a world, and the world after it. -/
def Action.run {α : Type} (w : World) (a : Action α) : Except Fault α × World :=
  Session.run w (ExceptT.run a)

end QueryGate
