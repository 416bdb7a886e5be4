import QueryGate.Gate
import QueryGate.Model.Query
import QueryGate.Toml

/-!
Settings and the layers they come from. A layer changes the settings that it names and leaves the
others as they are; the environment comes last.
-/

namespace QueryGate

structure Settings.Model where
  provider? : Option String := none
  key? : Option String := none
  name? : Option String := none
  address? : Option String := some QueryGate.Model.standardAddress
  sampling : Sampling := Sampling.standard
  deriving DecidableEq, Repr

/-- How often a model is called again, and how long to wait before that. -/
structure Settings.Retry where
  limit : Nat := 3
  firstDelay : Nat := 1000
  longestDelay : Nat := 30000
  factor : Binary := Binary.ofDecimal Binary.double false 2 0
  deriving DecidableEq, Repr

structure Settings.Guard where
  action : Gate.Action := .block
  rejectsUnknown : Bool := true
  keywords? : Option (List String) := none
  savepoint : String := Gate.standardSavepoint
  deriving DecidableEq, Repr

structure Settings.Storage where
  root? : Option String := none
  deriving DecidableEq, Repr

structure Settings.Introspection where
  schema : String := QueryGate.Introspection.standardSchema
  tables : Nat := 200
  enforced : Bool := true
  timeout : Nat := 5
  deriving DecidableEq, Repr

structure Settings where
  model : Settings.Model := {}
  retry : Settings.Retry := {}
  guard : Settings.Guard := {}
  storage : Settings.Storage := {}
  introspection : Settings.Introspection := {}
  deriving DecidableEq, Repr

namespace Settings

/-! ### Values -/

def string? : Toml → Option String
  | .string s => some s
  | _ => none

def strings? : Toml → Option (List String)
  | .array items => items.mapM string?
  | _ => none

def bool? : Toml → Option Bool
  | .bool b => some b
  | _ => none

/-- A number below `2 ^ bits`. -/
def natural? (bits : Nat) : Toml → Option Nat
  | .integer i => if 0 ≤ i ∧ i < Int.pow 2 bits then some i.toNat else none
  | _ => none

/-- The value of a format nearest to a number; integers of 64 bits count as numbers too. -/
def real? (f : Binary.Format) : Toml → Option Binary
  | .real b => some (b.convert f)
  | .integer i =>
    if -Int.pow 2 63 ≤ i ∧ i < Int.pow 2 64 then some (Binary.ofRatio f (i < 0) i.natAbs 1)
    else none
  | _ => none

/-- An entry for a setting that may be missing; what is missing is left out. -/
def optional (key : String) (v? : Option Toml) : Toml.Table := (v?.map (key, ·)).toList

def actionName : Gate.Action → String
  | .block => "block"
  | .warn => "warn"
  | .wrap => "wrap"

def actionOfName? (name : String) : Option Gate.Action :=
  match name with
  | "block" => some .block
  | "warn" => some .warn
  | "wrap" => some .wrap
  | _ => none

/-- An action by its name, or by its name with nothing under it. -/
def action? : Toml → Option Gate.Action
  | .string name => actionOfName? name
  | .table [(name, .table [])] | .table [(name, .array [])] => actionOfName? name
  | _ => none

/-- The setting under a key: the one that a table gives it, or else the one it had. -/
def pick {α : Type} (t : Toml.Table) (key : String) (read : Toml → Option α) (had : α) :
    Option α :=
  match t.lookup key with
  | some v => read v
  | none => some had

/-! ### Sections -/

def Model.keys : List String :=
  ["provider", "api_key", "model", "ollama_url", "temperature", "top_p"]

def Model.overlay (m : Model) (t : Toml.Table) : Option Model := do
  return ⟨← pick t "provider" (some <$> string? ·) m.provider?,
    ← pick t "api_key" (some <$> string? ·) m.key?,
    ← pick t "model" (some <$> string? ·) m.name?,
    ← pick t "ollama_url" (some <$> string? ·) m.address?,
    ⟨← pick t "temperature" (real? Binary.single) m.sampling.temperature,
      ← pick t "top_p" (real? Binary.single) m.sampling.topP⟩⟩

/-- Numbers are written in the longer format. -/
def Model.toTable (m : Model) : Toml.Table :=
  optional "provider" (m.provider?.map .string) ++ optional "api_key" (m.key?.map .string) ++
    optional "model" (m.name?.map .string) ++ optional "ollama_url" (m.address?.map .string) ++
    [("temperature", .real (m.sampling.temperature.convert Binary.double)),
      ("top_p", .real (m.sampling.topP.convert Binary.double))]

def Retry.keys : List String :=
  ["max_retries", "initial_delay_ms", "max_delay_ms", "backoff_factor"]

def Retry.overlay (r : Retry) (t : Toml.Table) : Option Retry := do
  return ⟨← pick t "max_retries" (natural? 32) r.limit,
    ← pick t "initial_delay_ms" (natural? 64) r.firstDelay,
    ← pick t "max_delay_ms" (natural? 64) r.longestDelay,
    ← pick t "backoff_factor" (real? Binary.double) r.factor⟩

def Retry.toTable (r : Retry) : Toml.Table :=
  [("max_retries", .integer r.limit), ("initial_delay_ms", .integer r.firstDelay),
    ("max_delay_ms", .integer r.longestDelay), ("backoff_factor", .real r.factor)]

def Guard.keys : List String :=
  ["danger_action", "reject_unknown_references", "dangerous_keywords", "savepoint_name"]

def Guard.overlay (g : Guard) (t : Toml.Table) : Option Guard := do
  return ⟨← pick t "danger_action" action? g.action,
    ← pick t "reject_unknown_references" bool? g.rejectsUnknown,
    ← pick t "dangerous_keywords" (some <$> strings? ·) g.keywords?,
    ← pick t "savepoint_name" string? g.savepoint⟩

def Guard.toTable (g : Guard) : Toml.Table :=
  [("danger_action", .string (actionName g.action)),
    ("reject_unknown_references", .bool g.rejectsUnknown)] ++
    optional "dangerous_keywords" (g.keywords?.map fun ks => .array (ks.map .string)) ++
    [("savepoint_name", .string g.savepoint)]

def Storage.keys : List String := ["root"]

def Storage.overlay (s : Storage) (t : Toml.Table) : Option Storage := do
  return ⟨← pick t "root" (some <$> string? ·) s.root?⟩

def Storage.toTable (s : Storage) : Toml.Table := optional "root" (s.root?.map .string)

def Introspection.keys : List String :=
  ["schema", "max_tables", "enforce_catalog_only", "statement_timeout_secs"]

def Introspection.overlay (i : Introspection) (t : Toml.Table) : Option Introspection := do
  return ⟨← pick t "schema" string? i.schema, ← pick t "max_tables" (natural? 32) i.tables,
    ← pick t "enforce_catalog_only" bool? i.enforced,
    ← pick t "statement_timeout_secs" (natural? 64) i.timeout⟩

def Introspection.toTable (i : Introspection) : Toml.Table :=
  [("schema", .string i.schema), ("max_tables", .integer i.tables),
    ("enforce_catalog_only", .bool i.enforced), ("statement_timeout_secs", .integer i.timeout)]

/-- The section under a key. Only a table lays its settings over those there were; a list of values
in the order of the keys, or a date, starts from the standard settings. -/
def section? {σ : Type} (t : Toml.Table) (key : String) (keys : List String) (had standard : σ)
    (overlay : σ → Toml.Table → Option σ) : Option σ :=
  match t.lookup key with
  | none => some had
  | some (.table entries) => overlay had entries
  | some (.array items) =>
    if items.length ≤ keys.length then overlay standard (keys.zip items) else none
  | some .moment => some standard
  | some _ => none

/-- Lays a table over settings; keys that name no setting do not count. -/
def overlay (s : Settings) (t : Toml.Table) : Option Settings := do
  return ⟨← section? t "llm" Model.keys s.model {} Model.overlay,
    ← section? t "retry" Retry.keys s.retry {} Retry.overlay,
    ← section? t "guard" Guard.keys s.guard {} Guard.overlay,
    ← section? t "storage" Storage.keys s.storage {} Storage.overlay,
    ← section? t "introspect" Introspection.keys s.introspection {} Introspection.overlay⟩

/-- The settings that a table gives; those that it does not give are the standard ones. -/
def ofTable? (t : Toml.Table) : Option Settings := ({} : Settings).overlay t

/-- The table of all settings. -/
def toTable (s : Settings) : Toml.Table :=
  [("llm", .table s.model.toTable), ("retry", .table s.retry.toTable),
    ("guard", .table s.guard.toTable), ("storage", .table s.storage.toTable),
    ("introspect", .table s.introspection.toTable)]

/-! ### Environment -/

/-- The values of variables that are set. -/
abbrev Environment := String → Option String

def Model.inEnvironment (m : Model) (e : Environment) : Model :=
  { m with
    key? := ((e "LLM_API_KEY").or (e "OPENAI_API_KEY")).or m.key?
    provider? := (e "LLM_PROVIDER").or m.provider?
    name? := (e "LLM_MODEL").or m.name?
    address? := (e "OLLAMA_URL").or m.address? }

/-- Catalogs are enforced to be apart from data unless the variable says false. -/
def Introspection.inEnvironment (i : Introspection) (e : Environment) : Introspection :=
  { i with enforced := ((e "ENFORCE_CATALOG_ONLY").map (Text.trim · != "false")).getD i.enforced }

def inEnvironment (s : Settings) (e : Environment) : Settings :=
  { s with
    model := s.model.inEnvironment e
    storage := ⟨(e "SCHEMA_GUARD_STORE").or s.storage.root?⟩
    introspection := s.introspection.inEnvironment e }

/-- Where snapshots are kept: at the given root, below the home directory, or below this one. -/
def archiveRoot (s : Settings) (e : Environment) : Path :=
  match s.storage.root?, e "HOME" with
  | some root, _ => .ofText root
  | none, some home => (Path.ofText home).descend [".local", "share", "schema-guard", "snapshots"]
  | none, none => (Path.ofText ".schema-guard").child "snapshots"

end Settings

end QueryGate
