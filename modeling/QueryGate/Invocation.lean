import QueryGate.Gate
import QueryGate.Model
import QueryGate.Output

/-!
What a user asks the program to do.
-/

namespace QueryGate

/-- A statement or script: the text itself, or the file that holds it. -/
inductive Invocation.Script
  | inline (sql : String)
  | file (path : String)
  deriving DecidableEq, Repr

/-- Whose snapshots are meant, and where they are kept. -/
structure Invocation.Holder where
  owner? : Option String
  token? : Option String
  store? : Option String
  deriving DecidableEq, Repr

structure Invocation.Generation where
  request : String
  schema? : Option String
  dialect : String
  provider? : Option Provider
  key? : Option String
  model? : Option String
  address? : Option String
  action? : Option Gate.Action
  dryRun : Bool
  deriving DecidableEq, Repr

structure Invocation.Introspection where
  database : String
  schema? : Option String
  tables? : Option Nat
  allowsData : Bool
  saveAs? : Option String
  deriving DecidableEq, Repr

/-- What is done with stored snapshots. -/
inductive Invocation.Snapshots
  | list
  | save (name schema dialect : String)
  | get (name : String)
  | delete (name : String)
  | diff (name schema : String)
  | update (name schema : String)
  deriving DecidableEq, Repr

inductive Invocation.Task
  | classify (script : Invocation.Script)
  | extract (script : Invocation.Script)
  | validate (schema : String) (dialect? : Option String) (script : Invocation.Script)
  | check (schema? dialect? : Option String) (action? : Option Gate.Action) (allowsUnknown : Bool)
      (script : Invocation.Script)
  | generate (g : Invocation.Generation)
  | diff (old new : String)
  | fingerprint (schema : String)
  | snapshot (holder : Invocation.Holder) (action : Invocation.Snapshots)
  | introspect (holder : Invocation.Holder) (i : Invocation.Introspection)
  deriving DecidableEq, Repr

structure Invocation where
  task : Invocation.Task
  output : Output
  verbosity : Nat
  deriving DecidableEq, Repr

end QueryGate
