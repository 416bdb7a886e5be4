import QueryGate.Fault
import QueryGate.Text.Blank
import QueryGate.Text.Case
import QueryGate.Text.WordChar

/-!
Statements that may destroy data, told by their words alone. A keyword counts wherever it stands as
a whole word, inside literals and comments too: too much may be reported, never too little.
-/

namespace QueryGate.Hazard

def isKeywordChar (c : Char) : Bool := c.isAlphanum || c = '_'

/-- The words that are dangerous, in the order in which they are reported. -/
structure Policy where
  keywords : List String
  nonempty : keywords ≠ []
  nodup : keywords.Nodup

/-- Adds a keyword unless the list has it already. -/
def addNew (ks : List String) (k : String) : List String := if k ∈ ks then ks else ks ++ [k]

theorem nodup_addNew {ks : List String} (h : ks.Nodup) (k : String) : (addNew ks k).Nodup := by
  unfold addNew
  split
  · exact h
  · next hk =>
    rw [List.nodup_append]
    exact ⟨h, by simp, fun x hx y hy e => hk (by simp_all)⟩

theorem nodup_foldl_addNew (new : List String) :
    ∀ ks : List String, ks.Nodup → (new.foldl addNew ks).Nodup := by
  induction new with
  | nil => exact fun _ h => h
  | cons k new ih => exact fun ks h => ih _ (nodup_addNew h k)

/-- A keyword in upper case; it must be a plain word. -/
def keyword (raw : String) : Except Fault String :=
  let k := Text.upper (Text.trim raw)
  if k.isEmpty || !k.toList.all isKeywordChar then .error (.invalidKeyword k) else .ok k

def Policy.ofList (raws : List String) : Except Fault Policy := do
  let ks ← raws.mapM keyword
  let keywords := ks.foldl addNew []
  if h : keywords = [] then .error .noKeywords
  else .ok ⟨keywords, h, nodup_foldl_addNew ks [] List.nodup_nil⟩

def Policy.standard : Policy where
  keywords :=
    ["DROP", "ALTER", "TRUNCATE", "CREATE", "GRANT", "REVOKE", "DELETE", "UPDATE", "INSERT",
      "MERGE"]
  nonempty := by simp
  nodup := by decide

instance : Inhabited Policy := ⟨Policy.standard⟩

/-- The spelling in which a word is compared with keywords. The long s is an S. -/
def fold (word : List Char) : List Char :=
  word.map fun c => if c = 'ſ' then 'S' else c.toUpper

/-- The dangerous words of a text, in the order of the policy. -/
structure Report where
  matched : List String
  deriving DecidableEq, Repr

namespace Report

def blocked (r : Report) : Bool := !r.matched.isEmpty

def reason? (r : Report) : Option String :=
  if r.blocked then
    some ("Potentially destructive statement keywords detected: " ++ Text.join ", " r.matched)
  else none

end Report

def Policy.report (p : Policy) (sql : String) : Report :=
  let words := (Text.wordRuns sql.toList).map fold
  ⟨p.keywords.filter fun k => words.contains k.toList⟩

end QueryGate.Hazard
