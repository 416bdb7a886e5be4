import QueryGate.Binary
import QueryGate.OrderedMap

/-!
Values of a settings file. A table is built up by its lines: values go to paths of keys, and headers
open tables and items of arrays.
-/

namespace QueryGate

/-- A value. Of a date or a time only its kind is kept. -/
inductive Toml
  | string (s : String)
  | integer (i : Int)
  | real (b : Binary)
  | bool (b : Bool)
  | moment
  | array (items : List Toml)
  | table (entries : List (String × Toml))
  deriving Repr

namespace Toml

abbrev Table := List (String × Toml)

/-- Integers of 64 bits with a sign. -/
def isLong (i : Int) : Bool := -Int.pow 2 63 ≤ i && i < Int.pow 2 63

mutual

/-- Whether every integer in a value is one of 64 bits. -/
def isPlain : Toml → Bool
  | .integer i => isLong i
  | .array items => areItemsPlain items
  | .table entries => areEntriesPlain entries
  | _ => true

def areItemsPlain : List Toml → Bool
  | [] => true
  | v :: vs => v.isPlain && areItemsPlain vs

def areEntriesPlain : List (String × Toml) → Bool
  | [] => true
  | (_, v) :: es => v.isPlain && areEntriesPlain es

end

mutual

/-- A value laid over what was there before: a table goes into a table, and anything else takes the
place of what was there. -/
def laidOver (had? : Option Toml) : Toml → Toml
  | .table entries =>
    match had? with
    | some (.table had) => .table (merge had entries)
    | _ => .table entries
  | v => v

/-- The entries of a table laid over those of another. -/
def merge (had : Table) : List (String × Toml) → Table
  | [] => had
  | (key, v) :: es => OrderedMap.put key (v.laidOver (had.lookup key)) (merge had es)

end

/-- How a table came about: on the way to another one, by a key with dots, or by its header. -/
inductive Draft.Origin
  | implied
  | dotted
  | stated
  deriving DecidableEq, Repr

/-- A value under construction; the items of an array of tables are held latest first. -/
inductive Draft
  | value (v : Toml)
  | table (origin : Draft.Origin) (entries : List (String × Draft))
  | tables (items : List (List (String × Draft)))

namespace Draft

mutual

def finish : Draft → Toml
  | .value v => v
  | .table _ entries => .table (finishEntries entries)
  | .tables items => .array (finishItems items).reverse

def finishEntries : List (String × Draft) → List (String × Toml)
  | [] => []
  | (k, d) :: es => (k, d.finish) :: finishEntries es

def finishItems : List (List (String × Draft)) → List Toml
  | [] => []
  | es :: items => .table (finishEntries es) :: finishItems items

end

/-- Gives a value to a path of keys, none of which may have one yet. The table that the last key
belongs to must not be one that headers alone have made. -/
def assign (origin : Origin) (es : List (String × Draft)) (path : List String) (v : Toml) :
    Option (List (String × Draft)) :=
  match path with
  | [] => none
  | [k] =>
    if origin = .implied || (es.lookup k).isSome then none else some (es ++ [(k, .value v)])
  | k :: ks =>
    match es.lookup k with
    | none => do return es ++ [(k, .table .dotted (← assign .dotted [] ks v))]
    | some (.table .stated _) | some (.value _) | some (.tables []) => none
    | some (.table origin sub) => do
      return OrderedMap.put k (.table origin (← assign origin sub ks v)) es
    | some (.tables (last :: earlier)) => do
      return OrderedMap.put k (.tables ((← assign .implied last ks v) :: earlier)) es

/-- Changes the table at the end of a path, making the tables that lead to it. -/
def within (path : List String)
    (change : List (String × Draft) → Option (List (String × Draft)))
    (es : List (String × Draft)) : Option (List (String × Draft)) :=
  match path with
  | [] => change es
  | k :: ks =>
    match es.lookup k with
    | none => do return es ++ [(k, .table .implied (← within ks change []))]
    | some (.table origin sub) => do
      return OrderedMap.put k (.table origin (← within ks change sub)) es
    | some (.tables (last :: earlier)) => do
      return OrderedMap.put k (.tables ((← within ks change last) :: earlier)) es
    | _ => none

end Draft

/-- A path of keys and its value. -/
abbrev Pair := List String × Toml

def assignAll (es : List (String × Draft)) (pairs : List Pair) : Option (List (String × Draft)) :=
  pairs.foldlM (fun es p => Draft.assign .stated es p.1 p.2) es

/-- The part of a file below a header: that of a table, or of the next item of an array. -/
structure Section where
  isItem : Bool
  path : List String
  pairs : List Pair

namespace Section

/-- Opens a table that no header has opened before. -/
def open? (k : String) (pairs : List Pair) (es : List (String × Draft)) :
    Option (List (String × Draft)) := do
  match es.lookup k with
  | none => return es ++ [(k, .table .stated (← assignAll [] pairs))]
  | some (.table .implied sub) =>
    return OrderedMap.put k (.table .stated (← assignAll sub pairs)) es
  | _ => none

def push? (k : String) (pairs : List Pair) (es : List (String × Draft)) :
    Option (List (String × Draft)) := do
  let item ← assignAll [] pairs
  match es.lookup k with
  | none => return es ++ [(k, .tables [item])]
  | some (.tables items) => return OrderedMap.put k (.tables (item :: items)) es
  | _ => none

def add? (es : List (String × Draft)) (s : Section) : Option (List (String × Draft)) :=
  match s.path.getLast? with
  | none => none
  | some k =>
    Draft.within s.path.dropLast (if s.isItem then push? k s.pairs else open? k s.pairs) es

end Section

/-- The table of a file with some pairs before its first header. -/
def ofSections? (pairs : List Pair) (sections : List Section) : Option Table := do
  let es ← sections.foldlM Section.add? (← assignAll [] pairs)
  return Draft.finishEntries es

end Toml

end QueryGate
