import QueryGate.Invocation.Outcome
import QueryGate.Invocation.Reading

/-!
The program. A process spells an invocation with its arguments, meets the requests of the work that
this asks for, and shows what comes of it. It reaches no network.
-/

namespace QueryGate.Main

def version : String := "0.1.0"

def usageLine : String := "Usage: schema-guard [OPTIONS] <COMMAND>"

/-- What is shown when there is nothing to run. -/
def usageText : Usage → String
  | .help => usageLine
  | .version => "schema-guard " ++ version
  | .helpOnNothing | .missingCommand => "A command is required\n" ++ usageLine
  | .missingArgument => "A required argument is missing\n" ++ usageLine
  | .conflict => "An argument cannot be used with another one\n" ++ usageLine
  | .invalidValue | .invalidNumber => "A value is not valid\n" ++ usageLine
  | .invalidCommand => "There is no such command\n" ++ usageLine
  | .unknownArgument => "There is no such argument\n" ++ usageLine
  | .needlessValue => "An argument takes no value\n" ++ usageLine

/-! ### Requests -/

/-- Whether a system error has a number, with or without its sign turned. -/
def hasNumber (code : UInt32) (n : UInt32) : Bool := code = n || code = 0 - n

def cause : IO.Error → FileCause
  | .noFileOrDirectory .. => .notFound
  | .noSuchThing .. => .notFound
  | .alreadyExists .. => .exists
  | .inappropriateType _ code _ => if hasNumber code 21 then .isDirectory else .notDirectory
  | .otherError code text => if hasNumber code 20 then .notDirectory else .other text
  | e => .other (toString e)

/-- The outcome of an action of the system, where its errors are causes. -/
def attempt {α : Type} (act : IO α) : IO (Except FileCause α) := do
  try return .ok (← act)
  catch e => return .error (cause e)

def textOf (content : ByteArray) : Except FileCause String :=
  match String.fromUTF8? content with
  | some s => .ok s
  | none => .error .notText

def list (p : String) : IO (List Disk.Entry) := do
  let found ← (System.mkFilePath [p]).readDir
  found.toList.mapM fun entry => do
    let m ← entry.path.metadata
    match m.type with
    | .file => return ⟨entry.fileName, some m.byteSize.toNat⟩
    | _ => return ⟨entry.fileName, none⟩

/-- An action of the system whose errors are about a place. -/
def about {α : Type} (p : Path) (act : IO α) : ExceptT (Path × FileCause) IO α :=
  ExceptT.mk do return (← attempt act).mapError (p, ·)

/-- The name that a document has while it is being written. -/
def draftName (name : String) (mark : ByteArray) : String :=
  let n := mark.toList.foldl (fun n b => 256 * n + b.toNat) 0
  "." ++ (Path.ofText name).stem.getD name ++ "." ++ String.ofList (Nat.toDigits 16 n) ++ ".tmp"

/-- Creates a draft of its own, which nobody else has created. -/
def createDraft (directory : Path) (name : String) : Nat → IO (Path × IO.FS.Handle)
  | 0 => throw (.alreadyExists none 17 "too many drafts")
  | tries + 1 => do
    let draft := directory.child (draftName name (← IO.getRandomBytes 6))
    try return (draft, ← IO.FS.Handle.mk draft.toText .writeNew)
    catch
      | .alreadyExists .. => createDraft directory name tries
      | e => throw e

/-- Fills a draft and moves it to its place as a whole. -/
def publish (draft target : Path) (file : IO.FS.Handle) (text : String) :
    ExceptT (Path × FileCause) IO Unit := do
  about draft do
    file.putStr text
    file.flush
  about target (IO.FS.rename draft.toText target.toText)

/-- Puts a document in its place by way of a draft, which does not stay behind. -/
def place (directory : Path) (name text : String) : IO (Except (Path × FileCause) Unit) :=
  ExceptT.run do
    about directory (IO.FS.createDirAll directory.toText)
    let (draft, file) ← about directory (createDraft directory name 65536)
    tryCatch (publish draft (directory.child name) file text) fun e => do
      discard (attempt (IO.FS.removeFile draft.toText))
      throw e

def remove (p : String) : IO (Except FileCause Bool) := do
  match ← attempt (IO.FS.removeFile p) with
  | .ok () => return .ok true
  | .error .notFound => return .ok false
  | .error e => return .error e

/-- The time that the system gives to a new file. -/
def now : IO Timestamp := do
  let (_, p) ← IO.FS.createTempFile
  let t := (← p.metadata).modified
  IO.FS.removeFile p
  return (Timestamp.ofMoment? (.ofSeconds t.sec.toNat t.nsec.toNat)).getD .epoch

def meet : (r : Request) → IO r.Reply
  | .read p => do
    let content ← attempt (IO.FS.readBinFile p.toText)
    return content.bind textOf
  | .list p => attempt (list p.toText)
  | .place directory name text => place directory name text
  | .remove p => remove p.toText
  | .input => do
    let content ← attempt do (← IO.getStdin).readToEnd
    return content
  | .now => now
  | .post _ => return Model.Reply.refused
  | .consult _ => return (none : Option Introspection.Listing)

def perform {α : Type} : Session α → IO α
  | .done a => return a
  | .ask r next => do perform (next (← meet r))

/-! ### Process -/

/-- The variables that the program looks at. -/
def variableNames : List String :=
  ["HOME", "DATABASE_URL", "ENFORCE_CATALOG_ONLY", "LLM_API_KEY", "LLM_MODEL", "LLM_PROVIDER",
    "OLLAMA_URL", "OPENAI_API_KEY", "SCHEMA_GUARD_STORE", "SCHEMA_GUARD_TOKEN"]

def environment : IO Settings.Environment := do
  let found ← variableNames.mapM fun name => return (name, ← IO.getEnv name)
  return fun name => (found.lookup name).join

def showUsage (u : Usage) : IO UInt32 := do
  if u.exitCode = 0 then IO.println (usageText u) else IO.eprintln (usageText u)
  return u.exitCode.toUInt32

def showOutcome (o : Outcome) : IO UInt32 := do
  if o.text.endsWith "\n" then IO.print o.text else IO.println o.text
  return o.exitCode.toUInt32

def run (arguments : List String) : IO UInt32 := do
  let e ← environment
  match Invocation.ofArguments e arguments with
  | .error u => showUsage u
  | .ok i =>
    match ← perform (ExceptT.run (i.run e)) with
    | .ok o => showOutcome o
    | .error f =>
      IO.eprintln ("Error: " ++ f.kind.label)
      return 1

end QueryGate.Main

def main (arguments : List String) : IO UInt32 := QueryGate.Main.run arguments
