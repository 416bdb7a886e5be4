import QueryGate.Arguments
import QueryGate.Invocation
import QueryGate.Prompt

/-!
The arguments that each command takes, and the invocation that they spell.
-/

namespace QueryGate.Invocation

open Arguments

/-! ### Grammar -/

def named (long : String) (k : Kind) : Argument := ⟨long, none, some long, .take k, none, false⟩

def flag (long : String) : Argument := ⟨long, none, some long, .turnOn, none, false⟩

def placed (key : String) (k : Kind) : Argument := ⟨key, none, none, .take k, none, true⟩

def withShort (letter : Char) (a : Argument) : Argument := { a with short? := some letter }

def withVariable (name : String) (a : Argument) : Argument :=
  { a with variableName? := some name }

def required (a : Argument) : Argument := { a with isRequired := true }

/-- Arguments that every command takes. -/
def common : List Argument :=
  [withShort 'f' (named "format" (.choice ["text", "json", "yaml"])), flag "no-color",
    ⟨"verbose", some 'v', some "verbose", .count, none, false⟩,
    ⟨"help", some 'h', some "help", .showHelp, none, false⟩]

def version : Argument := ⟨"version", some 'V', some "version", .showVersion, none, false⟩

def schema : Argument := withShort 's' (named "schema" .path)

def script : List Argument := [named "sql" .text, named "file" .path]

def oneScript : Group := ⟨["sql", "file"], true⟩

def dangerAction : Argument := named "danger-action" (.choice ["block", "warn", "wrap"])

def holder : List Argument :=
  [named "owner" .text, withVariable "SCHEMA_GUARD_TOKEN" (named "token" .text),
    withVariable "SCHEMA_GUARD_STORE" (named "store" .path)]

def holderKeys : List String := ["owner", "token"]

def oneHolder : Group := ⟨holderKeys, false⟩

def generation : List Argument :=
  [required (withShort 'r' (named "request" .text)), schema, named "dialect" .text,
    withShort 'p' (named "provider" (.choice (Provider.all.map Provider.key))),
    withShort 'a' (withVariable "LLM_API_KEY" (named "api-key" .text)),
    withShort 'm' (named "model" .text), named "ollama-url" .text, dangerAction, flag "dry-run"]

def introspection : List Argument :=
  [required (withVariable "DATABASE_URL" (named "db-url" .text)), named "schema" .text,
    named "max-tables" .number, flag "allow-data-access", named "save-as" .text]

/-- A command without others within it. -/
def leaf (name : String) (named : List Argument) (places : List Argument) : Command :=
  .mk name (named ++ common) places [] [] []

def ofScript (name : String) (named : List Argument) : Command :=
  .mk name (named ++ script ++ common) [] [oneScript] [] []

def snapshots : Command :=
  .mk "snapshot" (holder ++ common) [] [oneHolder] []
    [leaf "list" [] [],
      leaf "save" [required schema, named "dialect" .text] [placed "name" .text],
      leaf "get" [] [placed "name" .text], leaf "delete" [] [placed "name" .text],
      leaf "diff" [required schema] [placed "name" .text],
      leaf "update" [required schema] [placed "name" .text]]

def grammar : Command :=
  .mk "schema-guard" (version :: common) [] [] []
    [ofScript "classify" [], ofScript "extract" [],
      ofScript "validate" [required schema, named "dialect" .text],
      ofScript "check" [schema, named "dialect" .text, dangerAction, flag "allow-unknown"],
      leaf "generate" generation [],
      leaf "diff" [] [placed "old" .path, placed "new" .path],
      leaf "fingerprint" [] [placed "schema" .path], snapshots,
      .mk "introspect" (introspection ++ holder ++ common) [] [oneHolder]
        [("save-as", holderKeys)] []]

/-! ### Invocations -/

def text (g : Given) (key : String) : String := (g.value? key).getD ""

def dialect (g : Given) : String := (g.value? "dialect").getD Prompt.standardDialect

def scriptOf (g : Given) : Script :=
  match g.value? "sql" with
  | some sql => .inline sql
  | none => .file (text g "file")

def holderOf (g : Given) : Holder := ⟨g.value? "owner", g.value? "token", g.value? "store"⟩

def actionOf? (g : Given) : Option Gate.Action :=
  match g.value? "danger-action" with
  | some "block" => some .block
  | some "warn" => some .warn
  | some "wrap" => some .wrap
  | _ => none

def providerOf? (g : Given) : Option Provider :=
  (g.value? "provider").bind fun name => Provider.all.find? (·.key = name)

def generationOf (g : Given) : Generation :=
  ⟨text g "request", g.value? "schema", dialect g, providerOf? g, g.value? "api-key",
    g.value? "model", g.value? "ollama-url", actionOf? g, g.has "dry-run"⟩

def introspectionOf (g : Given) : Introspection :=
  ⟨text g "db-url", g.value? "schema", (g.value? "max-tables").bind number?,
    g.has "allow-data-access", g.value? "save-as"⟩

def snapshotsOf? (name : String) (g : Given) : Option Snapshots :=
  match name with
  | "list" => some .list
  | "save" => some (.save (text g "name") (text g "schema") (dialect g))
  | "get" => some (.get (text g "name"))
  | "delete" => some (.delete (text g "name"))
  | "diff" => some (.diff (text g "name") (text g "schema"))
  | "update" => some (.update (text g "name") (text g "schema"))
  | _ => none

def taskOf? (name : String) (g : Given) : Option Task :=
  match name with
  | "classify" => some (.classify (scriptOf g))
  | "extract" => some (.extract (scriptOf g))
  | "validate" => some (.validate (text g "schema") (g.value? "dialect") (scriptOf g))
  | "check" =>
    some (.check (g.value? "schema") (g.value? "dialect") (actionOf? g) (g.has "allow-unknown")
      (scriptOf g))
  | "generate" => some (.generate (generationOf g))
  | "diff" => some (.diff (text g "old") (text g "new"))
  | "fingerprint" => some (.fingerprint (text g "schema"))
  | "snapshot" =>
    g.inner?.bind fun inner => (snapshotsOf? inner.1 inner.2).map (.snapshot (holderOf g))
  | "introspect" => some (.introspect (holderOf g) (introspectionOf g))
  | _ => none

/-- The levels of commands within commands, the innermost first. -/
def levels : Given → List (List (String × List String))
  | .mk values none => [values]
  | .mk values (some (_, inner)) => levels inner ++ [values]

/-- The values of a common argument, where the innermost command that has it counts. -/
def commonValues? (g : Given) (key : String) : Option (List String) :=
  (levels g).findSome? (·.lookup key)

def outputOf (g : Given) : Output :=
  let format : Output.Format := match (commonValues? g "format").bind List.head? with
    | some "json" => .json
    | some "yaml" => .yaml
    | _ => .text
  ⟨format, (commonValues? g "no-color").isNone⟩

/-- The invocation that arguments spell. -/
def ofArguments (environment : String → Option String) (arguments : List String) :
    Except Usage Invocation := do
  let g ← Arguments.read environment grammar {} arguments
  match g.inner?.bind fun inner => taskOf? inner.1 inner.2 with
  | some task => return ⟨task, outputOf g, ((commonValues? g "verbose").getD []).length⟩
  | none => throw .missingCommand

end QueryGate.Invocation
