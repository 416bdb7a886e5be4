import QueryGate.Hazard
import QueryGate.Resolution
import QueryGate.Script

/-!
Letting statements through. A statement is judged by its dangerous words and then by its dotted
names; a script is judged statement by statement, and its verdict is the worst of theirs.
-/

namespace QueryGate

/-- What is done with a dangerous statement. -/
inductive Gate.Action
  | block
  | warn
  | wrap
  deriving DecidableEq, Repr

inductive Verdict
  | allowed
  | warned
  | blocked
  deriving DecidableEq, Repr

namespace Verdict

def exitCode : Verdict → Nat
  | .allowed => 0
  | .warned => 1
  | .blocked => 2

def worse (v w : Verdict) : Verdict := if v.exitCode ≤ w.exitCode then w else v

end Verdict

structure Gate where
  policy : Hazard.Policy
  clauseWords : ClauseWords
  action : Gate.Action
  /-- Unknown names block a statement instead of being warned of. -/
  rejectsUnknown : Bool
  savepoint : String

structure Decision where
  verdict : Verdict
  sql : String
  hazard : Hazard.Report
  resolution? : Option Resolution.Report
  warnings : List String
  deriving DecidableEq, Repr

namespace Gate

def standardSavepoint : String := "ai_guard"

def standard : Gate := ⟨.standard, Reference.clauseWords, .block, true, standardSavepoint⟩

/-- A dangerous statement that may not pass is not looked at further. -/
def refuse (sql : String) (h : Hazard.Report) : Decision := ⟨.blocked, sql, h, none, []⟩

/-- The decision on a statement whose danger does not block it. -/
def decide (g : Gate) (sql : String) (h : Hazard.Report) (r? : Option Resolution.Report) :
    Decision :=
  let danger := h.reason?.toList
  let unknown := match r? with
    | some r =>
      if r.ok then [] else ["Unknown table/column references: " ++ Text.join ", " r.unknown]
    | none => []
  { verdict :=
      if !unknown.isEmpty then (if g.rejectsUnknown then .blocked else .warned)
      else if !danger.isEmpty then .warned else .allowed
    sql := if h.blocked && g.action = .wrap then Script.rolledBack g.savepoint sql else sql
    hazard := h
    resolution? := r?
    warnings := danger ++ unknown }

/-- The decision on one statement, whose names are looked up in a snapshot if there is one. -/
def check (g : Gate) (snapshot? : Option Snapshot) (text : String) : Except Fault Decision :=
  let sql := Text.trim text
  if sql.isEmpty then .error .emptySql
  else
    let h := g.policy.report sql
    if h.blocked && g.action = .block then .ok (refuse sql h)
    else .ok (g.decide sql h (snapshot?.map fun s => Resolution.report g.clauseWords s sql))

/-- The decisions on the statements of a script, in order. -/
def checkScript (g : Gate) (snapshot? : Option Snapshot) (script : String) :
    Except Fault (List Decision) :=
  match Script.split script with
  | [] => .error .emptySql
  | statements => statements.mapM (g.check snapshot?)

def overall (ds : List Decision) : Verdict :=
  ds.foldl (fun v d => v.worse d.verdict) .allowed

end Gate

end QueryGate
