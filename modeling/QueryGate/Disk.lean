import QueryGate.Fault
import QueryGate.OrderedMap
import QueryGate.Path

/-!
A disk as the files and directories at its paths. What stands between a path and its root has to be
a directory, and a file is put in place as a whole.
-/

namespace QueryGate

inductive Node
  | file (content : ByteArray)
  | directory

instance : DecidableEq Node
  | .file a, .file b =>
    match a.decEq b with
    | isTrue h => isTrue (congrArg Node.file h)
    | isFalse h => isFalse fun e => h (Node.file.inj e)
  | .file _, .directory => isFalse nofun
  | .directory, .file _ => isFalse nofun
  | .directory, .directory => isTrue rfl

/-- What a directory holds under a name; a directory has no size. -/
structure Disk.Entry where
  name : String
  size? : Option Nat
  deriving DecidableEq, Repr

structure Disk where
  nodes : OrderedMap (List String) Node

namespace Disk

def empty : Disk := ⟨.empty⟩

/-- The node at the end of some parts. Where a path starts there is always a directory. -/
def node? (d : Disk) (parts : List String) : Option Node :=
  if parts = [] || parts = ["/"] then some .directory else d.nodes.get? parts

def isFile (d : Disk) (parts : List String) : Bool :=
  match d.node? parts with
  | some (.file _) => true
  | _ => false

/-- All that a list begins with, short of itself. -/
def beginnings : List String → List (List String)
  | [] => []
  | part :: parts => [] :: (beginnings parts).map (part :: ·)

/-- Whether a file stands where a directory has to be. -/
def isBlocked (d : Disk) (parts : List String) : Bool := (beginnings parts).any d.isFile

def find (d : Disk) (p : Path) : Except FileCause Node :=
  if d.isBlocked p.parts then .error .notDirectory
  else if p.toText.isEmpty then .error .notFound
  else match d.node? p.parts with
    | some n => .ok n
    | none => .error .notFound

def read (d : Disk) (p : Path) : Except FileCause String := do
  match ← d.find p with
  | .directory => throw .isDirectory
  | .file content =>
    match String.fromUTF8? content with
    | some s => return s
    | none => throw .notText

def Node.entry (name : String) : Node → Entry
  | .file content => ⟨name, some content.size⟩
  | .directory => ⟨name, none⟩

/-- What stands directly below some parts. -/
def entries (d : Disk) (parts : List String) : List Entry :=
  d.nodes.entries.filterMap fun (there, n) =>
    if there.dropLast = parts then there.getLast?.map fun name => Node.entry name n else none

def list (d : Disk) (p : Path) : Except FileCause (List Entry) := do
  match ← d.find p with
  | .directory => return d.entries p.parts
  | .file _ => throw .notDirectory

def put (d : Disk) (parts : List String) (n : Node) : Disk := ⟨d.nodes.insert parts n⟩

/-- Makes directories where nothing stands on the way to some parts. -/
def prepare (d : Disk) (parts : List String) : Disk :=
  (beginnings parts ++ [parts]).foldl
    (fun d there => if (d.node? there).isSome then d else d.put there .directory) d

/-- Puts a file into a directory, which is made when it is missing. -/
def place (d : Disk) (directory : Path) (name text : String) : Except (Path × FileCause) Disk :=
  let parts := directory.parts
  if d.isBlocked parts then .error (directory, .notDirectory)
  else if d.isFile parts then .error (directory, .exists)
  else if d.node? (parts ++ [name]) = some .directory then
    .error (directory.child name, .isDirectory)
  else .ok ((d.prepare parts).put (parts ++ [name]) (.file text.toUTF8))

/-- Takes a file away; says whether there was one. -/
def remove (d : Disk) (p : Path) : Except FileCause (Bool × Disk) :=
  match d.find p with
  | .ok (.file _) => .ok (true, ⟨d.nodes.erase p.parts⟩)
  | .ok .directory => .error .isDirectory
  | .error .notFound => .ok (false, d)
  | .error cause => .error cause

end Disk

end QueryGate
