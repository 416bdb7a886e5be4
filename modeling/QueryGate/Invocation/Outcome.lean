import QueryGate.Invocation
import QueryGate.Report
import QueryGate.Settings.Files
import QueryGate.Snapshot.Payload

/-!
What comes of an invocation: a text to show and a code to exit with. What was given with the
invocation goes before the settings, and the settings before what is standard.
-/

namespace QueryGate

structure Outcome where
  exitCode : Nat
  text : String
  deriving DecidableEq, Repr

namespace Invocation

/-! ### Sources -/

/-- The text at a place; a dash stands for the input. -/
def readSource (path : String) : Action String := do
  if path = "-" then
    match ← Action.ask .input with
    | .ok text => return text
    | .error cause => throw (.unreadable "stdin" cause)
  else match ← Action.ask (.read (.ofText path)) with
    | .ok text => return text
    | .error cause => throw (.unreadable path cause)

def Script.load : Script → Action String
  | .inline sql => return sql
  | .file path => readSource path

/-- The name of a snapshot that is read from a place. -/
def sourceName (path : String) : String :=
  match (Path.ofText path).stem with
  | some "-" | none => "schema"
  | some name => name

def loadSnapshot (path : String) (dialect? : Option String) : Action Snapshot := do
  let text ← readSource path
  liftExcept (Snapshot.ofPayload text (sourceName path) dialect? (← Action.ask .now))

def loadSnapshot? (path? dialect? : Option String) : Action (Option Snapshot) :=
  match path? with
  | some path => some <$> loadSnapshot path dialect?
  | none => return none

def loadTables (path : String) (dialect? : Option String) : Action Catalog := do
  liftExcept (Catalog.ofPayload (Dialect.ofName? dialect?) (← readSource path))

/-! ### Statements -/

def policy (s : Settings) : Except Fault Hazard.Policy :=
  match s.guard.keywords? with
  | some keywords => Hazard.Policy.ofList keywords
  | none => .ok .standard

/-- The gate of the settings; unknown names are let through where they are expected. -/
def gate (s : Settings) (action? : Option Gate.Action) (allowsUnknown : Bool) :
    Except Fault Gate := do
  return ⟨← policy s, Reference.clauseWords, action?.getD s.guard.action,
    s.guard.rejectsUnknown && !allowsUnknown, s.guard.savepoint⟩

def classify (s : Settings) (o : Output) (script : Script) : Action Outcome := do
  let sql ← script.load
  let r := (← liftExcept (policy s)).report sql
  return ⟨if r.blocked then Verdict.blocked.exitCode else Verdict.allowed.exitCode,
    Report.hazard o r⟩

def extract (o : Output) (script : Script) : Action Outcome := do
  return ⟨0, Report.extraction o (Extraction.ofText Reference.clauseWords (← script.load))⟩

def validate (o : Output) (schema : String) (dialect? : Option String) (script : Script) :
    Action Outcome := do
  let sql ← script.load
  let r := Resolution.report Reference.clauseWords (← loadSnapshot schema dialect?) sql
  return ⟨if r.ok then 0 else 1, Report.resolution o r.ok r.unknown⟩

def check (s : Settings) (o : Output) (schema? dialect? : Option String)
    (action? : Option Gate.Action) (allowsUnknown : Bool) (script : Script) : Action Outcome := do
  let sql ← script.load
  let snapshot? ← loadSnapshot? schema? dialect?
  let g ← liftExcept (gate s action? allowsUnknown)
  let ds ← liftExcept (g.checkScript snapshot? sql)
  return ⟨(Gate.overall ds).exitCode, Report.decisions o ds⟩

/-! ### Generation -/

def Generation.model (g : Generation) (s : Settings) : Except Fault Model := do
  let p ← Provider.choose g.provider? s.model.provider?
  Model.ofProvider p (g.key?.or s.model.key?) (g.model?.or s.model.name?)
    ((g.address?.or s.model.address?).getD Model.standardAddress)

/-- A model writes a statement, which then has to pass the gate as any other. -/
def Generation.run (s : Settings) (o : Output) (g : Generation) : Action Outcome := do
  let request := Text.trim g.request
  if request.isEmpty then throw .emptyRequest
  let snapshot? ← loadSnapshot? g.schema? (some g.dialect)
  let rules := Prompt.system g.dialect
  let user := Prompt.user g.dialect request ((snapshot?.map Snapshot.outline).getD "")
  if g.dryRun then return ⟨0, Report.promptPreview o rules user⟩
  let m ← liftExcept (g.model s)
  let gate ← liftExcept (gate s g.action? false)
  let sql ← m.statement s.model.sampling s.retry.limit rules user
  let d ← liftExcept (gate.check snapshot? sql)
  return ⟨d.verdict.exitCode, Report.generation o request g.dialect d⟩

/-! ### Snapshots -/

def diff (o : Output) (old new : String) : Action Outcome := do
  let a ← loadSnapshot old none
  let b ← loadSnapshot new none
  let d := Difference.between a.tables b.tables
  return ⟨if d.isEmpty then 0 else 1, Report.difference o d⟩

def fingerprint (o : Output) (schema : String) : Action Outcome := do
  let s ← loadSnapshot schema none
  return ⟨0, Report.fingerprint o s.name s.checksum s.tables.size⟩

def Holder.owner (h : Holder) : Except Fault Owner := Owner.resolve h.owner? h.token?

def Holder.archive (h : Holder) (s : Settings) (e : Settings.Environment) : Archive :=
  ⟨(h.store?.map Path.ofText).getD (s.archiveRoot e)⟩

/-- Tables to compare with a stored snapshot, in the dialect that it was saved in. -/
def loadAgainst (a : Archive) (owner : Owner) (name schema : String) : Action Catalog := do
  let stored ← a.get owner name
  loadTables schema stored.dialect?

def Snapshots.run (o : Output) (a : Archive) (owner : Owner) : Snapshots → Action Outcome
  | .list => return ⟨0, Report.snapshots o (← a.list owner)⟩
  | .save name schema dialect => do
    let tables ← loadTables schema (some dialect)
    return ⟨0, Report.metadata o
      (← a.save owner name (some dialect) tables (← Action.ask .now))⟩
  | .get name => return ⟨0, ← a.document owner name⟩
  | .delete name => do
    if ← a.delete owner name then return ⟨0, "Deleted '" ++ name ++ "'\n"⟩
    else return ⟨1, "Snapshot '" ++ name ++ "' did not exist\n"⟩
  | .diff name schema => do
    let d ← a.diff owner name (← loadAgainst a owner name schema)
    return ⟨if d.isEmpty then 0 else 1, Report.difference o d⟩
  | .update name schema => do
    let tables ← loadAgainst a owner name schema
    return ⟨0, Report.update o (← a.update owner name tables (← Action.ask .now))⟩

/-! ### Databases -/

/-- Asks a database for its catalog. -/
def consult (q : QueryGate.Introspection.Query) : Action QueryGate.Introspection.Listing := do
  if q.address.isEmpty then throw .noDatabase
  if (Address.ofText? q.address).isNone then throw .databaseAddress
  match ← Action.ask (.consult q) with
  | some l => return l
  | none => throw .databaseUnreachable

def Introspection.query (i : Introspection) (s : Settings) : QueryGate.Introspection.Query :=
  let schema := Text.trim (i.schema?.getD s.introspection.schema)
  ⟨Text.trim i.database,
    if schema.isEmpty then QueryGate.Introspection.standardSchema else schema,
    QueryGate.Introspection.tableLimit (i.tables?.getD s.introspection.tables),
    s.introspection.timeout⟩

def Introspection.run (s : Settings) (e : Settings.Environment) (o : Output) (h : Holder)
    (i : Introspection) : Action Outcome := do
  let q := i.query s
  let r ← liftExcept
    (QueryGate.Introspection.ofListing q.schema (s.introspection.enforced && !i.allowsData)
      (← consult q))
  let text := Report.introspection o r
  let code := if r.notice?.isSome then 1 else 0
  match i.saveAs? with
  | none => return ⟨code, text⟩
  | some name =>
    let owner ← liftExcept h.owner
    let m ← (h.archive s e).save owner name (some r.dialect) r.tables (← Action.ask .now)
    return ⟨code, if o.format = .text then text ++ Report.metadata o m else text⟩

/-! ### Invocations -/

def Task.run (s : Settings) (e : Settings.Environment) (o : Output) : Task → Action Outcome
  | .classify script => Invocation.classify s o script
  | .extract script => Invocation.extract o script
  | .validate schema dialect? script => Invocation.validate o schema dialect? script
  | .check schema? dialect? action? allowsUnknown script =>
    Invocation.check s o schema? dialect? action? allowsUnknown script
  | .generate g => g.run s o
  | .diff old new => Invocation.diff o old new
  | .fingerprint schema => Invocation.fingerprint o schema
  | .snapshot h action => do
    let owner ← liftExcept h.owner
    action.run o (h.archive s e) owner
  | .introspect h i => i.run s e o h

/-- Loads the settings and does what is asked. -/
def run (e : Settings.Environment) (i : Invocation) : Action Outcome := do
  i.task.run (← Settings.load e) e i.output

end Invocation

end QueryGate
